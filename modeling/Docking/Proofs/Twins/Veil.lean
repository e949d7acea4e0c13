import Docking.Proofs.Session.Housing
import Docking.Proofs.Tree.Geometry
import Docking.Proofs.Tree.Placement

namespace Docking

/-! A tree with a veil over some of its nodes: where they lie and the windows they fill cannot
be seen, but what they are, how large they are and what they hang from can. A carrier moves and
rehouses its dockable below the veil only. -/

namespace Table

universe u v

variable {Key : Type u} {Value : Type v} [DecidableEq Key]

theorem mapValues_modify (table : Table Key Value) (key : Key) {change : Value → Value}
    {before after : Key → Value → Value}
    (commutes : ∀ value, table.get? key = some value →
      after key (change value) = change (before key value))
    (elsewhere : ∀ other value, other ≠ key → after other value = before other value) :
    (table.modify key change).mapValues after = (table.mapValues before).modify key change := by
  apply Table.ext
  simp only [modify, mapValues, List.map_map]
  apply List.map_congr_left
  intro entry listed
  simp only [Function.comp_apply, Prod.mk.injEq, true_and]
  split
  · next here =>
      have found := (table.get?_eq_some_iff entry.1 entry.2).mpr listed
      rw [here] at found ⊢
      exact commutes entry.2 found
  · next different => exact elsewhere entry.1 entry.2 different

theorem mapValues_modify_of_eq (table : Table Key Value) (key : Key) {change : Value → Value}
    {view : Key → Value → Value}
    (same : ∀ value, table.get? key = some value → view key (change value) = view key value) :
    (table.modify key change).mapValues view = table.mapValues view := by
  apply Table.ext
  simp only [modify, mapValues, List.map_map]
  apply List.map_congr_left
  intro entry listed
  simp only [Function.comp_apply, Prod.mk.injEq, true_and]
  split
  · next here =>
      have found := (table.get?_eq_some_iff entry.1 entry.2).mpr listed
      rw [here] at found ⊢
      exact same entry.2 found
  · rfl

theorem mapValues_erase (table : Table Key Value) (key : Key) (view : Key → Value → Value) :
    (table.erase key).mapValues view = (table.mapValues view).erase key := by
  apply Table.ext
  simp only [erase, mapValues, List.filter_map]
  rfl

omit [DecidableEq Key] in
theorem findKey?_mapValues (table : Table Key Value) (view : Key → Value → Value)
    (test : Key → Value → Bool) :
    (table.mapValues view).findKey? test =
      table.findKey? fun key value => test key (view key value) := by
  simp only [findKey?, mapValues, List.find?_map, Option.map_map, Function.comp_def]

theorem mapValues_foldl_erase (table : Table Key Value) (keys : List Key)
    (view : Key → Value → Value) :
    (keys.foldl erase table).mapValues view = keys.foldl erase (table.mapValues view) := by
  induction keys generalizing table with
  | nil => rfl
  | cons key rest induction => rw [List.foldl_cons, induction, mapValues_erase, List.foldl_cons]

end Table

def Node.veil (data : Node) : Node :=
  { data with layout := .placedAt .zero data.layout.extent, window := none }

namespace Tree

/-- The tree with a veil over the nodes that are `inside`. -/
def veil (inside : NodeId → Bool) (tree : Tree) : Tree :=
  { tree with
    nodes := tree.nodes.mapValues fun node data => if inside node then data.veil else data }

section View

variable (inside : NodeId → Bool) (tree : Tree)

theorem get?_veil (node : NodeId) :
    (tree.veil inside).get? node =
      (tree.get? node).map fun data => if inside node then data.veil else data :=
  tree.nodes.get?_mapValues _ node

private theorem map_get?_veil {Result : Type} {read : Node → Result} {node : NodeId}
    (kept : inside node = true → ∀ data, read data.veil = read data) :
    ((tree.veil inside).get? node).map read = (tree.get? node).map read := by
  rw [get?_veil, Option.map_map]
  cases veiled : inside node with
  | false => rfl
  | true => exact congrFun (congrArg Option.map (funext (kept veiled))) _

@[simp] theorem size_veil : (tree.veil inside).size = tree.size :=
  List.length_map _

@[simp] theorem contains_veil (node : NodeId) :
    (tree.veil inside).contains node = tree.contains node := by
  have seen := congrArg Option.isSome (get?_veil inside tree node)
  rwa [Option.isSome_map] at seen

@[simp] theorem parent?_veil (node : NodeId) :
    (tree.veil inside).parent? node = tree.parent? node := by
  have seen := map_get?_veil inside tree (fun (_ : inside node = true) data =>
    show data.veil.parent = data.parent from rfl)
  have same := congrArg (Option.bind · id) seen
  simp only [Option.bind_map] at same
  exact same

@[simp] theorem children_veil (node : NodeId) :
    (tree.veil inside).children node = tree.children node := by
  rw [children_eq_getD, children_eq_getD, map_get?_veil]
  exact fun _ _ => rfl

@[simp] theorem widget?_veil (node : NodeId) :
    (tree.veil inside).widget? node = tree.widget? node :=
  tree.map_get?_veil inside fun _ _ => rfl

@[simp] theorem ancestors_veil (node : NodeId) :
    (tree.veil inside).ancestors node = tree.ancestors node := by
  rw [ancestors, size_veil, climb_congr (parent?_veil inside tree), ancestors]

@[simp] theorem isAncestor_veil (upper lower : NodeId) :
    (tree.veil inside).isAncestor upper lower = tree.isAncestor upper lower := by
  rw [isAncestor, ancestors_veil, isAncestor]

@[simp] theorem rootOf_veil (node : NodeId) : (tree.veil inside).rootOf node = tree.rootOf node := by
  rw [rootOf, ancestors_veil, rootOf]

@[simp] theorem admits_veil (parent child : NodeId) :
    (tree.veil inside).admits parent child = tree.admits parent child := by
  simp only [admits, contains_veil, isAncestor_veil]

@[simp] theorem indexOf?_veil (node : NodeId) :
    (tree.veil inside).indexOf? node = tree.indexOf? node := by
  simp only [indexOf?, parent?_veil, children_veil]

@[simp] theorem isTargetBox_veil (node : NodeId) :
    (tree.veil inside).isTargetBox node = tree.isTargetBox node := by
  simp only [isTargetBox, widget?_veil]

@[simp] theorem subtree_veil (node : NodeId) :
    (tree.veil inside).subtree node = tree.subtree node := by
  rw [subtree, descendants_congr (children_veil inside tree) (size_veil inside tree), subtree]

theorem extent_veil (node : NodeId) :
    ((tree.veil inside).layout? node).map Rect.extent = (tree.layout? node).map Rect.extent := by
  rw [layout?, Option.map_map, map_get?_veil, layout?, Option.map_map]
  exact fun _ _ => rfl

variable {node : NodeId} (outside : inside node = false)
include outside

theorem layout?_veil : (tree.veil inside).layout? node = tree.layout? node :=
  tree.map_get?_veil inside fun veiled => nomatch outside.symm.trans veiled

theorem window?_veil : (tree.veil inside).window? node = tree.window? node := by
  have seen := map_get?_veil inside tree (fun veiled (data : Node) =>
    show data.veil.window = data.window from nomatch outside.symm.trans veiled)
  have same := congrArg (Option.bind · id) seen
  simp only [Option.bind_map] at same
  exact same

end View

section Change

variable (inside : NodeId → Bool) (tree : Tree)

theorem veil_modify (node : NodeId) {change : Node → Node}
    (commutes : inside node = true → ∀ data, (change data).veil = change data.veil) :
    (tree.modify node change).veil inside = (tree.veil inside).modify node change := by
  unfold veil modify
  simp only [mk.injEq, and_self, and_true]
  apply Table.mapValues_modify
  · intro data _
    split
    · next veiled => exact commutes veiled data
    · rfl
  · exact fun _ _ _ => rfl

theorem veil_removeChild (parent child : NodeId) :
    (tree.removeChild parent child).1.veil inside =
      ((tree.veil inside).removeChild parent child).1 := by
  unfold removeChild
  rw [children_veil]
  cases (tree.children parent).idxOf? child with
  | none => rfl
  | some index =>
      dsimp only
      rw [veil_modify, veil_modify]
      · exact fun _ _ => rfl
      · exact fun _ _ => rfl

theorem veil_detach (node : NodeId) :
    (tree.detach node).1.veil inside = ((tree.veil inside).detach node).1 := by
  unfold detach
  rw [parent?_veil]
  cases tree.parent? node with
  | none => rfl
  | some parent => exact tree.veil_removeChild inside parent node

theorem veil_insertChild (parent : NodeId) (index : Nat) (child : NodeId) :
    (tree.insertChild parent index child).veil inside =
      (tree.veil inside).insertChild parent index child := by
  unfold insertChild
  rw [admits_veil]
  split
  · dsimp only
    rw [veil_modify, veil_modify, veil_detach]
    · exact fun _ _ => rfl
    · exact fun _ _ => rfl
  · rfl

theorem veil_setBackground (node : NodeId) (background : Colour) :
    (tree.setBackground node background).veil inside =
      (tree.veil inside).setBackground node background :=
  tree.veil_modify inside node fun _ _ => rfl

theorem veil_setLabel (node : NodeId) (label : String) :
    (tree.setLabel node label).veil inside = (tree.veil inside).setLabel node label :=
  tree.veil_modify inside node fun _ _ => rfl

theorem veil_destroy (node : NodeId) :
    (tree.destroy node).1.veil inside = ((tree.veil inside).destroy node).1 := by
  unfold destroy
  rw [contains_veil]
  split
  · have freed := tree.veil_detach inside node
    dsimp only
    rw [← freed, subtree_veil]
    unfold veil
    simp only [mk.injEq, and_self, and_true]
    exact Table.mapValues_foldl_erase _ _ _
  · rfl

end Change

theorem veil_modify_of_eq {inside : NodeId → Bool} (tree : Tree) {node : NodeId}
    {change : Node → Node} (veiled : inside node = true)
    (same : ∀ data, tree.get? node = some data → (change data).veil = data.veil) :
    (tree.modify node change).veil inside = tree.veil inside := by
  unfold veil modify
  simp only [mk.injEq, and_self, and_true]
  apply Table.mapValues_modify_of_eq
  intro data found
  rw [if_pos veiled, if_pos veiled]
  exact same data found

theorem veil_place {inside : NodeId → Bool} (tree : Tree) {node : NodeId} (rect : Rect)
    (below : ∀ other ∈ tree.descendants node, inside other = true) :
    (tree.place node rect).veil inside =
      (tree.modify node fun data => { data with layout := rect }).veil inside := by
  have moved (others : List NodeId) (offset : Point)
      (veiled : ∀ other ∈ others, inside other = true) (current : Tree) :
      (others.foldl (fun current other => current.modify other fun data =>
        { data with layout := data.layout.translate offset }) current).veil inside =
          current.veil inside := by
    induction others generalizing current with
    | nil => rfl
    | cons other rest induction =>
        rw [List.foldl_cons, induction fun next listed =>
          veiled next (List.mem_cons_of_mem _ listed)]
        exact veil_modify_of_eq current (veiled other (List.mem_cons_self ..)) fun _ _ => rfl
  unfold place
  cases found : tree.get? node with
  | none =>
      have unplaced : tree.layout? node = none := congrArg (Option.map Node.layout) found
      rw [unplaced]
      unfold veil modify
      simp only [mk.injEq, and_self, and_true]
      symm
      apply Table.mapValues_modify_of_eq
      intro data known
      cases found.symm.trans known
  | some data =>
      have placed : tree.layout? node = some data.layout :=
        congrArg (Option.map Node.layout) found
      rw [placed]
      dsimp only
      split
      · rfl
      · apply moved
        intro other listed
        rw [descendants_congr (tree.children_modify_of_eq node ?_) (tree.size_modify node _)]
          at listed
        · exact below other listed
        · exact fun _ => rfl

theorem layout?_place {tree : Tree} (wellFormed : tree.WellFormed) (node : NodeId) (rect : Rect) :
    (tree.place node rect).layout? node = (tree.layout? node).map fun _ => rect := by
  have outside : decide (node ≠ node) = false := decide_eq_false (not_not_intro rfl)
  have placed := @veil_place (fun other => decide (other ≠ node)) tree node rect fun other below =>
    decide_eq_true (wellFormed.ne_of_above
      ((wellFormed.mem_descendants_iff node other).mp below)).symm
  have seen := congrArg (layout? · node) placed
  rw [layout?_veil _ _ outside, layout?_veil _ _ outside] at seen
  rw [seen, layout?, get?_modify, if_pos rfl, Option.map_map, layout?, Option.map_map]
  rfl

structure Covers (inside : NodeId → Bool) (node : NodeId) (tree : Tree) : Prop where
  node : inside node = true
  below : ∀ lower upper, tree.parent? lower = some upper → inside upper = true →
    inside lower = true

namespace Covers

variable {inside : NodeId → Bool} {node : NodeId} {tree : Tree}

theorem congr {after : Tree} (covers : Covers inside node tree)
    (parent?_eq : ∀ other, after.parent? other = tree.parent? other) :
    Covers inside node after where
  node := covers.node
  below lower upper linked := covers.below lower upper ((parent?_eq lower).symm.trans linked)

variable (covers : Covers inside node tree)
include covers

theorem above {upper lower : NodeId} (above : tree.Above upper lower)
    (veiled : inside upper = true) : inside lower = true := by
  induction above using Relation.TransGen.head_induction_on with
  | single linked => exact covers.below _ _ linked veiled
  | head linked _ earlier => exact covers.below _ _ linked earlier

variable (wellFormed : tree.WellFormed)
include wellFormed

theorem descendants {other : NodeId} (below : other ∈ tree.descendants node) :
    inside other = true :=
  covers.above ((wellFormed.mem_descendants_iff node other).mp below) covers.node

theorem rootOf {other : NodeId} (outside : inside other = false) :
    inside (tree.rootOf other) = false := by
  unfold Tree.rootOf
  cases last : (tree.ancestors other).getLast? with
  | none =>
      rw [List.getLast?_eq_none_iff.mp last]
      exact outside
  | some top =>
      rw [List.getLastD_eq_getLast?, last, Option.getD_some, Bool.eq_false_iff]
      intro veiled
      have above := (wellFormed.mem_ancestors_iff other top).mp (List.mem_of_getLast? last)
      exact Bool.false_ne_true (outside.symm.trans (covers.above above veiled))

theorem veil_place {rect : Rect}
    (fits : ∀ layout, tree.layout? node = some layout → rect.extent = layout.extent) :
    (tree.place node rect).veil inside = tree.veil inside := by
  rw [Tree.veil_place tree rect fun _ below => covers.descendants wellFormed below]
  apply veil_modify_of_eq tree covers.node
  intro data found
  have same := fits data.layout (congrArg (Option.map Node.layout) found)
  simp only [Node.veil, same]

theorem veil_rehouses {after : Tree} (rehouses : Rehouses node tree after)
    (rooted : tree.parent? node = none) : after.veil inside = tree.veil inside := by
  induction rehouses with
  | refl => rfl
  | detach earlier same => rwa [detach_of_parent?_eq_none (earlier.parent?_eq_none rooted)]
  | place earlier _ fits same =>
      have covered := covers.congr (earlier.parent?_eq rooted)
      exact (covered.veil_place (earlier.wellFormed wellFormed) fits).trans same
  | attachWindow earlier window same =>
      rw [attachWindow, earlier.parent?_eq_none rooted]
      refine Eq.trans ?_ same
      exact veil_modify_of_eq _ covers.node fun _ _ => rfl
  | detachWindow _ same =>
      refine Eq.trans ?_ same
      exact veil_modify_of_eq _ covers.node fun _ _ => rfl

theorem admits (present : tree.contains node = true) {parent : NodeId}
    (known : tree.contains parent = true) (outside : inside parent = false) :
    tree.admits parent node = true := by
  apply wellFormed.admits_of_not_above _ known present
  · intro above
    exact Bool.false_ne_true (outside.symm.trans (covers.above above covers.node))
  · rintro rfl
    exact Bool.false_ne_true (outside.symm.trans covers.node)

theorem insertChild {parent : NodeId} (index : Nat) (outside : inside parent = false)
    (present : tree.contains node = true) (known : tree.contains parent = true) :
    Covers inside node (tree.insertChild parent index node) where
  node := covers.node
  below lower upper linked veiled := by
    rw [wellFormed.parent?_insertChild index (covers.admits wellFormed present known outside)]
      at linked
    split at linked
    · cases linked
      cases outside.symm.trans veiled
    · exact covers.below lower upper linked veiled

end Covers

/-- The node itself comes to light, and what is below it stays hidden. -/
def beneath (inside : NodeId → Bool) (node other : NodeId) : Bool :=
  inside other && other ≠ node

theorem beneath_self (inside : NodeId → Bool) (node : NodeId) : beneath inside node node = false := by
  simp [beneath]

theorem beneath_of_ne (inside : NodeId → Bool) {node other : NodeId} (different : other ≠ node) :
    beneath inside node other = inside other := by
  simp [beneath, different]

theorem veil_beneath_place {inside : NodeId → Bool} {node : NodeId} {tree : Tree}
    (covers : Covers inside node tree) (wellFormed : tree.WellFormed)
    (windowless : tree.window? node = none) (rect : Rect) :
    (tree.place node rect).veil (beneath inside node) =
      (tree.veil inside).modify node fun data => { data with layout := rect } := by
  rw [veil_place]
  · unfold veil modify
    simp only [mk.injEq, and_self, and_true]
    apply Table.mapValues_modify
    · intro data found
      have bare : data.window = none := by
        rwa [window?, get?, found, Option.bind_some] at windowless
      rw [beneath_self, if_pos covers.node, if_neg Bool.false_ne_true, Node.veil]
      simp only [bare]
    · intro other data different
      rw [beneath_of_ne inside different]
  · intro other below
    have lower := (wellFormed.mem_descendants_iff node other).mp below
    rw [beneath_of_ne inside (wellFormed.ne_of_above lower).symm]
    exact covers.above lower covers.node

def AtOrigin (tree : Tree) (node : NodeId) : Prop :=
  ∀ layout, tree.layout? node = some layout → layout.position = .zero

theorem AtOrigin.rehouses {node : NodeId} {before after : Tree} (atOrigin : AtOrigin before node)
    (wellFormed : before.WellFormed) (rehouses : Rehouses node before after) :
    AtOrigin after node := by
  induction rehouses with
  | refl => exact atOrigin
  | detach _ earlier =>
      intro layout placed
      exact earlier layout (by rwa [layout?_detach] at placed)
  | place earlier positioned =>
      intro layout placed
      rw [layout?_place (earlier.wellFormed wellFormed)] at placed
      obtain ⟨_, _, rfl⟩ := Option.map_eq_some_iff.mp placed
      exact positioned
  | attachWindow _ window earlier =>
      intro layout placed
      exact earlier layout (by rwa [layout?_attachWindow] at placed)
  | detachWindow _ earlier =>
      intro layout placed
      exact earlier layout (by rwa [layout?_detachWindow] at placed)

end Tree
end Docking

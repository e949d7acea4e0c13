import Docking.Proofs.Window.Target

namespace Docking

/-! Creation of dockables, and what an application does on its own, leave the records in
agreement as long as the application keeps its hands off the dockables and their windows. -/

def Tree.Edit.subject? : Tree.Edit → Option NodeId
  | .addChild _ child => some child
  | .insertChild _ _ child => some child
  | .removeChild _ child => some child
  | .detach node => some node
  | .attachWindow node _ => some node
  | .detachWindow node => some node
  | .destroy node => some node
  | .add .. | .place .. | .forgetDestroyed | .setLabel .. | .setBackground .. => none

theorem Tree.WellFormed.mooring?_apply {tree : Tree} (wellFormed : tree.WellFormed)
    {change : Tree.Edit} {other : NodeId} (known : other.index < tree.nextIndex)
    (apart : change.subject? ≠ some other) (spares : ∀ node, change ≠ .destroy node) :
    (tree.apply change).mooring? other = tree.mooring? other := by
  have different {node : NodeId} (subject : change.subject? = some node) : other ≠ node := by
    rintro rfl
    exact apart subject
  cases change with
  | add widget layout =>
      rw [Tree.apply, mooring?_add, if_neg]
      rintro rfl
      exact Nat.lt_irrefl _ known
  | addChild parent child => exact wellFormed.mooring?_insertChild_of_ne _ (different rfl)
  | insertChild parent index child =>
      exact wellFormed.mooring?_insertChild_of_ne index (different rfl)
  | removeChild parent child =>
      rw [Tree.apply, mooring?_removeChild, if_neg fun both => different rfl both.1]
  | detach node => rw [Tree.apply, wellFormed.mooring?_detach, if_neg (different rfl)]
  | attachWindow node window =>
      rw [Tree.apply, mooring?_attachWindow, if_neg fun both => different rfl both.1]
  | detachWindow node => rw [Tree.apply, mooring?_detachWindow, if_neg (different rfl)]
  | destroy node => exact absurd rfl (spares node)
  | place node rect => exact (SameLinks.place tree node rect).mooring?_eq other
  | setLabel node label => exact (SameLinks.setLabel tree node label).mooring?_eq other
  | setBackground node background =>
      exact (SameLinks.setBackground tree node background).mooring?_eq other
  | forgetDestroyed => rfl

namespace Session

variable {session : Session} {survey : Survey}

section Build

variable {tree : Tree} (wellFormed : tree.WellFormed) (plan : DockablePlan)
include wellFormed

theorem mooring?_buildWidgets {other : NodeId} (known : other.index < tree.nextIndex) :
    (buildWidgets tree plan).tree.mooring? other = tree.mooring? other := by
  have notBody : other ≠ tree.nextId := fun same => Nat.lt_irrefl _ (same ▸ known)
  unfold buildWidgets
  dsimp only
  generalize plan.layout = layout
  have bodied := wellFormed.add (.newPanel plan.label) layout
  split
  · rw [Tree.mooring?_add, if_neg notBody]
  · have notHandle : other ≠ (tree.add (.newPanel plan.label) layout).nextId := by
      rintro rfl
      exact Nat.lt_irrefl _ (Nat.lt_of_succ_lt known)
    rw [Tree.addChild, (bodied.add _ _).mooring?_insertChild_of_ne _ notHandle,
      Tree.mooring?_add, if_neg notHandle, Tree.mooring?_add, if_neg notBody]

theorem mooring?_buildWidgets_nextId :
    (buildWidgets tree plan).tree.mooring? tree.nextId = some ⟨none, none⟩ := by
  unfold buildWidgets
  dsimp only
  generalize plan.layout = layout
  have bodied := wellFormed.add (.newPanel plan.label) layout
  split
  · rw [Tree.mooring?_add, if_pos rfl]
  · have notHandle : tree.nextId ≠ (tree.add (.newPanel plan.label) layout).nextId := fun same =>
      Nat.succ_ne_self tree.nextIndex (congrArg NodeId.index same).symm
    rw [Tree.addChild, (bodied.add _ _).mooring?_insertChild_of_ne _ notHandle,
      Tree.mooring?_add, if_neg notHandle, Tree.mooring?_add, if_pos rfl]

theorem not_above_buildWidgets {container : NodeId} (present : tree.contains container = true) :
    ¬ (buildWidgets tree plan).tree.Above tree.nextId container := by
  unfold buildWidgets
  dsimp only
  generalize plan.layout = layout
  have bodied := wellFormed.add (.newPanel plan.label) layout
  have below : ¬ (tree.add (.newPanel plan.label) layout).Above tree.nextId container :=
    fun above => wellFormed.not_above_nextId container (wellFormed.above_of_add above)
  split
  · exact below
  · next height _ =>
      generalize ({ layout with height := smaller height layout.height } : Rect) = strip
      intro above
      have added := bodied.add (.newPanel plan.label) strip
      rw [Tree.addChild] at above
      by_cases admitted : ((tree.add (.newPanel plan.label) layout).add
          (.newPanel plan.label) strip).admits tree.nextId
            (tree.add (.newPanel plan.label) layout).nextId = true
      · rcases added.above_of_insertChild admitted above with above | ⟨_, handle | lower⟩
        · exact below (bodied.above_of_add above)
        · refine bodied.ne_nextId ?_ handle
          rw [Tree.contains_eq_isSome, Tree.mooring?_add,
            if_neg (wellFormed.ne_nextId present), ← Tree.contains_eq_isSome]
          exact present
        · exact bodied.not_above_nextId container (bodied.above_of_add lower)
      · rw [Tree.insertChild_of_not_admits admitted] at above
        exact below (bodied.above_of_add above)

theorem admits_buildWidgets {container : NodeId} (present : tree.contains container = true) :
    (buildWidgets tree plan).tree.admits container tree.nextId = true := by
  have built := (evolves_buildWidgets tree plan).wellFormed wellFormed
  refine built.admits_of_not_above (wellFormed.ne_nextId present) ?_ ?_
    (not_above_buildWidgets wellFormed plan present)
  · rw [Tree.contains_eq_isSome, mooring?_buildWidgets wellFormed plan
      (wellFormed.index_lt container present), ← Tree.contains_eq_isSome]
    exact present
  · rw [Tree.contains_eq_isSome, mooring?_buildWidgets_nextId wellFormed]
    rfl

end Build

theorem Orderly.index_lt_of_lodgings (orderly : session.Orderly) {node : NodeId}
    {lodging : Lodging} (lodged : session.lodgings node = some lodging) :
    node.index < session.tree.nextIndex := by
  obtain ⟨dockable, found, _⟩ := Option.map_eq_some_iff.mp lodged
  exact orderly.index_lt node _ (standing?_of_dockable? found)

namespace Tidy

variable (tidy : session.Tidy survey)
include tidy

theorem attends_register (orderly : session.Orderly) (plan : DockablePlan)
    (handle : Option NodeId) :
    Attends survey (buildWidgets session.tree plan).tree.mooring? session.tree.nextId
      plan.container.isSome none none
      { session with
        tree := (buildWidgets session.tree plan).tree
        dockables := session.dockables.insert session.tree.nextId
          (newDockable session plan handle) } := by
  have wellFormed := tidy.wellFormed
  have unlodged : session.lodgings session.tree.nextId = none :=
    congrArg (Option.map Dockable.lodging) orderly.fresh
  have house : House survey (· = session.tree.nextId) session.lodgings
      { session.toScene with tree := (buildWidgets session.tree plan).tree } := by
    refine (House.mono tidy fun _ drifts => drifts.elim).relink
      ((evolves_buildWidgets session.tree plan).wellFormed wellFormed) ?_
    exact fun other lodging lodged _ =>
      mooring?_buildWidgets wellFormed plan (orderly.index_lt_of_lodgings lodged)
  have named := @House.rename _ _ _ _ house session.tree.nextId
    ⟨plan.container.isSome, none⟩ (by rw [Lodgings.window?, unlodged]; rfl) rfl
  generalize made : ({ session with
      tree := (buildWidgets session.tree plan).tree
      dockables := session.dockables.insert session.tree.nextId
        (newDockable session plan handle) } : Session) = registered
  have lodgings_eq : registered.lodgings = Function.update session.lodgings
      session.tree.nextId (some ⟨plan.container.isSome, none⟩) := by
    funext other
    rw [← made, lodgings, dockable?, Table.get?_insert, Function.update_apply]
    split
    · rw [Option.map_some, Dockable.lodging, newDockable]
      cases plan.container <;> rfl
    · rfl
  have tree_eq : registered.tree = (buildWidgets session.tree plan).tree := by rw [← made]
  have scene_eq : registered.toScene =
      { session.toScene with tree := (buildWidgets session.tree plan).tree } := by rw [← made]
  rw [← lodgings_eq, ← scene_eq] at named
  rw [← tree_eq]
  refine .of_house named (by rw [lodgings_eq, Function.update_self]) ?_
  rw [tree_eq]
  exact mooring?_buildWidgets_nextId wellFormed plan

theorem build (orderly : session.Orderly) (plan : DockablePlan)
    (exists_container : ∀ container index, plan.container = some (container, index) →
      session.tree.contains container = true) :
    (session.build plan).1.Tidy survey := by
  have attends := tidy.attends_register orderly plan (buildWidgets session.tree plan).handle
  unfold Session.build
  dsimp only
  rw [body_buildWidgets session.tree plan]
  refine house_repaint ?_ _
  unfold giveFirstPlace
  cases planned : plan.container with
  | none =>
      rw [planned] at attends
      obtain ⟨kept, settled⟩ := attends.settleCarrier plan.layout.position
      exact settled.tidy rfl
  | some place =>
      obtain ⟨container, index⟩ := place
      rw [planned] at attends
      have present := exists_container container index planned
      exact (attends.insertChild _ (admits_buildWidgets tidy.wellFormed plan present)).tidy rfl

theorem create (orderly : session.Orderly) (plan : DockablePlan) :
    (session.create plan).1.Tidy survey := by
  unfold Session.create
  split
  · next container index planned =>
      split
      · next present =>
          refine tidy.build orderly plan fun other place same => ?_
          rw [planned] at same
          cases same
          exact present
      · exact tidy
  · next planned =>
      refine tidy.build orderly plan fun other place same => ?_
      rw [planned] at same
      cases same

theorem edit (orderly : session.Orderly) {change : Tree.Edit}
    (spared : ∀ node, change.subject? = some node → session.dockable? node = none) :
    Tidy survey { session with tree := session.tree.apply change } := by
  have apart {node : NodeId} {lodging : Lodging}
      (lodged : session.lodgings node = some lodging) : change.subject? ≠ some node := by
    intro subject
    rw [lodgings, spared node subject] at lodged
    cases lodged
  by_cases removes : ∃ node, change = .destroy node
  · obtain ⟨node, rfl⟩ := removes
    exact House.destroy tidy fun lodging lodged => (apart lodged rfl).elim
  · refine House.relink tidy (tidy.wellFormed.apply change) fun other lodging lodged _ => ?_
    exact tidy.wellFormed.mooring?_apply (orderly.index_lt_of_lodgings lodged) (apart lodged)
      fun node same => removes ⟨node, same⟩

end Tidy

/-- The application keeps its hands off the dockables and their windows, and its targets
have ready-made placements or none. An edit without effect does no harm either. -/
def Spares (session : Session) : Operation → Prop
  | .edit change => session.tree.apply change = session.tree ∨
      ∀ node, change.subject? = some node → session.dockable? node = none
  | .command (.destroyWindow window) => ∀ node dockable,
      session.dockable? node = some dockable → dockable.window ≠ some window
  | .targetEvent _ _ hooks => hooks.Standard
  | _ => True

theorem Tidy.perform (tidy : session.Tidy survey) (orderly : session.Orderly)
    {operation : Operation} (spares : session.Spares operation)
    (inhouse : ∀ command, operation ≠ .command command) :
    (session.perform operation).Tidy survey := by
  cases operation with
  | edit change =>
      rcases spares with idle | spared
      · unfold Session.perform
        dsimp only
        rw [idle]
        exact tidy
      · exact tidy.edit orderly spared
  | command command => exact absurd rfl (inhouse command)
  | create plan => exact tidy.create orderly plan
  | destroyDockable node =>
      unfold Session.perform destroyDockable
      dsimp only
      split
      · exact tidy.destroyWidget node
      · exact tidy
  | destroyWidget node => exact tidy.destroyWidget node
  | syncDestroyed => exact tidy.syncDestroyed
  | tearOut node root => exact tidy.tearOut node root
  | forceUndocked node => exact tidy.forceUndocked node
  | startInteractiveResize node edge => exact tidy.startInteractiveResize node edge
  | payloadEvent node event => exact tidy.payloadEvent node event
  | targetEvent target event hooks => exact tidy.targetEvent spares orderly target event
  | takeNotices => exact tidy

end Session
end Docking

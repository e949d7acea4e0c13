import Docking.Proofs.Session.CatchUp
import Docking.Proofs.Tree.Vacancy
import Docking.Proofs.Window.Rollback

namespace Docking

/-! A strong drag that the carrier fails. The dockable goes back into its slot, and a box right
behind it that lies where it lies is taken for the placeholder of its removal and destroyed. -/

namespace Table

universe u v

variable {Key : Type u} {Value : Type v} [DecidableEq Key] {table : Table Key Value} {key : Key}

theorem erase_insert_of_absent (absent : table.get? key = none) (value : Value) :
    (table.insert key value).erase key = table := by
  have kept := congrArg entries (erase_of_get?_eq_none absent)
  have inserted : (table.insert key value).entries = table.entries ++ [(key, value)] := by
    rw [insert, dif_pos absent]
  refine ext ?_
  change (table.insert key value).entries.filter (fun entry => entry.1 ≠ key) = table.entries
  rw [inserted, List.filter_append]
  simpa [erase] using kept

theorem modify_modify (table : Table Key Value) (key : Key) (first second : Value → Value) :
    (table.modify key first).modify key second =
      table.modify key fun value => second (first value) := by
  refine ext ?_
  simp only [modify, mapValues, List.map_map]
  refine List.map_congr_left fun entry _ => ?_
  simp only [Function.comp_apply]
  split <;> rfl

theorem modify_of_fixed {change : Value → Value}
    (fixed : ∀ value, table.get? key = some value → change value = value) :
    table.modify key change = table := by
  refine ext ?_
  simp only [modify, mapValues]
  refine (List.map_congr_left fun entry listed => ?_).trans (List.map_id _)
  split
  · next here =>
      have found := (table.get?_eq_some_iff entry.1 entry.2).mpr listed
      rw [here] at found
      rw [fixed entry.2 found]
      rfl
  · rfl

end Table

/-- No component is NaN, so the rectangle compares equal to itself. -/
def Rect.isComparable (rect : Rect) : Bool :=
  !rect.x.isNaN && !rect.y.isNaN && !rect.width.isNaN && !rect.height.isNaN

theorem beq_self_of_isNaN_eq_false {value : Float32} (number : value.isNaN = false) :
    (value == value) = true := by
  change value.toModel.unpack.isNaN = false at number
  change (value.toModel.unpack.compare value.toModel.unpack == some .eq) = true
  cases unpacked : value.toModel.unpack with
  | infinity sign => cases sign <;> rfl
  | notANumber =>
      rw [unpacked] at number
      cases number
  | zero sign => rfl
  | finite sign mantissa exponent positive =>
      have same : (compare exponent exponent).then (compare mantissa mantissa) = .eq := by
        rw [Std.compare_self, Std.compare_self]
        rfl
      cases sign with
      | positive =>
          change (some ((compare exponent exponent).then (compare mantissa mantissa)) ==
            some .eq) = true
          rw [same]
          rfl
      | negative =>
          change (some ((compare exponent exponent).then (compare mantissa mantissa)).swap ==
            some .eq) = true
          rw [same]
          rfl

theorem Rect.beq_self_of_isComparable {rect : Rect} (comparable : rect.isComparable = true) :
    (rect == rect) = true := by
  simp only [isComparable, Bool.and_eq_true, Bool.not_eq_true'] at comparable
  obtain ⟨⟨⟨x, y⟩, width⟩, height⟩ := comparable
  change (rect.x == rect.x && (rect.y == rect.y && (rect.width == rect.width &&
    rect.height == rect.height))) = true
  rw [beq_self_of_isNaN_eq_false x, beq_self_of_isNaN_eq_false y,
    beq_self_of_isNaN_eq_false width, beq_self_of_isNaN_eq_false height]
  rfl

/-! ### The windows that are left -/

namespace Desktop

variable (desktop : Desktop)

theorem windows_destroyWindow (window : WindowId) :
    (desktop.destroyWindow window).windows = desktop.windows.erase window := by
  unfold destroyWindow
  split
  · rfl
  · next absent =>
      rw [hasWindow, Table.contains, Bool.not_eq_true, Option.isSome_eq_false_iff,
        Option.isNone_iff_eq_none] at absent
      exact (Table.erase_of_get?_eq_none absent).symm

theorem windows_startSystemDrag (window : WindowId) (payload : DragPayload) :
    (desktop.startSystemDrag window payload).1.windows = desktop.windows := by
  unfold startSystemDrag attempt
  cases desktop.faults (.startSystemDrag window payload) desktop.requests with
  | some report => rfl
  | none =>
      dsimp only
      split
      · rfl
      · split <;> rfl

variable {desktop}

theorem Numbered.get?_nextNumber (numbered : desktop.Numbered) :
    desktop.windows.get? ⟨desktop.nextNumber⟩ = none := by
  rw [← Option.isNone_iff_eq_none, ← Option.isSome_eq_false_iff, Bool.eq_false_iff]
  exact fun present => Nat.lt_irrefl _ (numbered ⟨desktop.nextNumber⟩ present)

end Desktop

theorem Scene.openWindow_cases (scene : Scene) (title : String) (node : NodeId)
    (position : Option Point) :
    (∃ desktop report,
      scene.openWindow title node position = ({ scene with desktop }, .error report) ∧
        desktop.windows = scene.desktop.windows) ∨
    ∃ tree desktop opened, scene.openWindow title node position =
        (⟨tree, desktop⟩, .ok ⟨scene.desktop.nextNumber⟩) ∧
      desktop.windows = scene.desktop.windows.insert ⟨scene.desktop.nextNumber⟩ opened := by
  unfold openWindow Desktop.createWindow Desktop.attempt
  dsimp only
  cases scene.desktop.faults (.createWindow _) scene.desktop.requests with
  | some report => exact .inl ⟨_, _, rfl, rfl⟩
  | none => exact .inr ⟨_, _, _, rfl, rfl⟩

namespace Carrier

def sansGrab (carrier : Carrier) : Carrier :=
  { carrier with
    means :=
      match carrier.means with
      | .generic _ => .generic .zero
      | .compositor active => .compositor active
      | .imageCursor _ shown => .imageCursor .zero shown }

theorem beforeDock_of_failed {carrier : Carrier} {scene : Scene} {settings : Settings}
    {node : NodeId} {root grab : Point} {report : DesktopError} (bare : carrier.window = none)
    (numbered : scene.desktop.Numbered)
    (failed : (carrier.undock scene settings node root grab).result = .error report) :
    let flown := carrier.undock scene settings node root grab
    let left := flown.carrier.beforeDock flown.scene node
    left.1.sansGrab = carrier.sansGrab ∧ left.2.desktop.windows = scene.desktop.windows := by
  obtain ⟨means, window⟩ := carrier
  subst bare
  cases means with
  | generic earlier =>
      unfold undock takeWindow at failed ⊢
      simp only [dropWindow] at failed ⊢
      rcases scene.openWindow_cases settings.windowTitle node (some (root - grab)) with
        ⟨desktop, report, refused, same⟩ | ⟨tree, desktop, opened, granted, _⟩
      · rw [refused]
        exact ⟨rfl, same⟩
      · rw [granted] at failed
        cases failed
  | compositor active =>
      unfold undock takeWindow at failed ⊢
      simp only [dropWindow] at failed ⊢
      rcases scene.openWindow_cases settings.windowTitle node none with
        ⟨desktop, report, refused, same⟩ | ⟨tree, desktop, opened, granted, inserted⟩
      · rw [refused]
        exact ⟨rfl, same⟩
      · rw [granted] at failed ⊢
        dsimp only at failed ⊢
        have kept := desktop.windows_startSystemDrag ⟨scene.desktop.nextNumber⟩
          ⟨settings.markerMime, markerData node⟩
        generalize desktop.startSystemDrag _ _ = started at failed kept ⊢
        obtain ⟨after, result⟩ := started
        cases result with
        | ok => cases failed
        | error report =>
            refine ⟨rfl, ?_⟩
            change (after.destroyWindow ⟨scene.desktop.nextNumber⟩).windows = _
            rw [after.windows_destroyWindow, show after.windows = desktop.windows from kept,
              inserted, Table.erase_insert_of_absent numbered.get?_nextNumber]
  | imageCursor earlier shown => cases failed

end Carrier

namespace Session

open Docking.Tree (Regained Rehouses SameLinks)

variable {session : Session} {target node : NodeId} {root : Point} {hooks : Hooks}

/-! ### Destructions that concern nobody -/

theorem update_of_fixed {change : Dockable → Dockable}
    (fixed : ∀ dockable, session.dockable? node = some dockable → change dockable = dockable) :
    session.update node change = session := by
  rw [update, Table.modify_of_fixed fixed]

theorem syncDestroyed_of_apart
    (unknown : ∀ gone ∈ session.tree.destroyed, session.dockable? gone = none)
    (apart : ∀ node dockable, session.dockable? node = some dockable →
      leadsInto session.tree.destroyed dockable.activeTarget = false ∧
        leadsInto session.tree.destroyed dockable.originTarget = false) :
    session.syncDestroyed = { session with tree := session.tree.forgetDestroyed } := by
  have dismissed : session.tree.destroyed.foldl (forgetDockable session.tree.destroyed)
      { session with tree := session.tree.forgetDestroyed } =
        { session with tree := session.tree.forgetDestroyed } := by
    refine List.foldlRecOn (motive := (· = _)) _ _ rfl fun current same gone lost => ?_
    rw [same]
    unfold forgetDockable
    rw [show dockable? { session with tree := session.tree.forgetDestroyed } gone = none from
      unknown gone lost]
  have cleared (nodes : List NodeId) : nodes.foldl (forgetTargets session.tree.destroyed)
      { session with tree := session.tree.forgetDestroyed } =
        { session with tree := session.tree.forgetDestroyed } := by
    refine List.foldlRecOn (motive := (· = _)) _ _ rfl fun current same node _ => ?_
    rw [same]
    unfold forgetTargets
    split
    · rfl
    · next dockable found =>
        obtain ⟨aimless, homeless⟩ := apart node dockable found
        rw [aimless, Bool.false_and, if_neg Bool.false_ne_true]
        refine update_of_fixed fun dockable found => ?_
        obtain ⟨aimless, homeless⟩ := apart node dockable found
        rw [aimless, homeless]
        rfl
  unfold syncDestroyed
  split
  · next nothing => rw [Tree.forgetDestroyed, ← nothing]
  · dsimp only
    rw [dismissed, cleared]

theorem syncDestroyed_of_grounded (single : session.flight.Single)
    (grounded : session.inFlight = none)
    (unknown : ∀ gone ∈ session.tree.destroyed, session.dockable? gone = none) :
    session.syncDestroyed = { session with tree := session.tree.forgetDestroyed } := by
  refine syncDestroyed_of_apart unknown fun node dockable found => ?_
  obtain ⟨aimless, homeless⟩ := single.atRest grounded (standing?_of_dockable? found)
  exact ⟨congrArg (leadsInto _) aimless, congrArg (leadsInto _) homeless⟩

/-! ### The attempt and its undoing -/

theorem withCarrier_eq_handOver {dockable : Dockable}
    (found : session.dockable? node = some dockable) (action : Carrier → Scene → Carrier × Scene) :
    session.withCarrier node action =
      session.handOver node (action dockable.carrier session.toScene).1
        (action dockable.carrier session.toScene).2 := by
  unfold withCarrier
  rw [found]
  rfl

theorem handOver_handOver (session : Session) (node : NodeId) (first second : Carrier)
    (early late : Scene) :
    (session.handOver node first early).handOver node second late =
      session.handOver node second late := by
  simp only [handOver, update, Table.modify_modify]

def slot? (session : Session) (node : NodeId) : Option (NodeId × Nat) :=
  (session.tree.parent? node).bind fun parent =>
    (session.tree.indexOf? node).map fun index => (parent, index)

def removedTree (session : Session) (target node : NodeId) (hooks : Hooks) : Tree :=
  ((hooks.runRemove session.tree target node).1.detach node).1

/-- The attempt of a strong drag to take a dockable, which is at `rect` on the screen, out of its
container and into flight. -/
def pullOut (session : Session) (target node : NodeId) (rect : Rect) (root : Point)
    (hooks : Hooks) : Session × Except DockError Unit :=
  Session.beginDrag { session with tree := session.removedTree target node hooks } node
    ⟨root, root - rect.position, some target, session.slot? node⟩

/-- A strong drag takes `node` out of `target`, but the carrier fails. `left` is the session once
the flight that was begun is undone. -/
structure PullFails (session : Session) (target node : NodeId) (root : Point) (hooks : Hooks)
    (left : Session) : Prop where
  grounded : session.inFlight = none
  armed : session.armedChild? target = some node
  failed : ∃ rect report, session.screenRect? node = some rect ∧
    session.pullOut target node rect root hooks = (left, .error (.desktop report))

def dropBehind (session : Session) (node : NodeId) (slot : Option (NodeId × Nat)) : Session :=
  match placeholderBehind? session.tree node slot with
  | some placeholder => session.destroyWidget placeholder
  | none => session

theorem targetEvent_of_pullFails {left : Session}
    (fails : session.PullFails target node root hooks left) :
    session.targetEvent target (.pointerMove root) hooks =
      ⟨(left.letGo node).dropBehind node (session.slot? node), .understoodOnly,
        (hooks.runRemove session.tree target node).2⟩ := by
  obtain ⟨rect, report, shown, failed⟩ := fails.failed
  rw [targetEvent_of_grounded session fails.grounded, tearOutChild, fails.armed]
  dsimp only
  rw [shown]
  dsimp only [pullOut, removedTree, slot?] at failed ⊢
  rw [failed]
  rfl

theorem Orderly.slot (orderly : session.Orderly)
    (armed : session.armedChild? target = some node) :
    ∃ early late rect, session.tree.Slot node target early late rect ∧
      session.slot? node = some (target, early.length) := by
  obtain ⟨_, _, _, linked⟩ := docked_of_armedChild? target armed
  obtain ⟨index, indexed⟩ := orderly.wellFormed.indexOf?_of_parent? linked
  obtain ⟨rect, placed⟩ := Tree.layout?_of_contains (Tree.contains_of_parent? linked)
  have slot := orderly.wellFormed.slot linked indexed placed
  refine ⟨_, _, rect, slot, ?_⟩
  rw [slot?, linked, slot.indexOf?_eq]
  rfl

theorem removedTree_of_leavesBox {early late : List NodeId} {rect : Rect}
    (slot : session.tree.Slot node target early late rect)
    (leavesBox : hooks.remove = Hooks.readyMade.remove) :
    session.removedTree target node hooks =
      session.tree.edit (Placement.removeLeavingBox session.tree node) := by
  have vacated := Tree.vacated_removeLeavingBox slot
  rw [removedTree, Hooks.runRemove, leavesBox]
  exact congrArg Prod.fst (Tree.detach_of_parent?_eq_none vacated.rooted)

theorem undone_of_failed {dockable : Dockable} {left : Session} {tearOut : TearOut}
    {parent : NodeId} {index : Nat} {report : DesktopError}
    (found : session.dockable? node = some dockable) (bare : dockable.carrier.window = none)
    (numbered : session.desktop.Numbered) (rooted : session.tree.parent? node = none)
    (slot : tearOut.slot = some (parent, index))
    (failed : session.beginDrag node tearOut = (left, .error (.desktop report))) :
    ∃ carrier ground layout, carrier.sansGrab = dockable.carrier.sansGrab ∧
      ground.desktop.windows = session.desktop.windows ∧
      session.tree.layout? node = some layout ∧ Rehouses node session.tree ground.tree ∧
      left = { session.handOver node carrier ground with
        tree := (ground.tree.insertChild parent index node).place node layout } := by
  have begun := session.dragBegun_beginDrag node tearOut
  rw [failed] at begun
  cases begun with
  | declined _ unasked => exact absurd rfl (unasked report)
  | @failed _ attempted _ layout alone placed _ tried =>
      unfold attemptFlight tryCarrier at tried
      rw [Tree.detach_of_parent?_eq_none rooted, found] at tried
      obtain ⟨tried, gaveUp⟩ := Prod.mk.inj tried
      have undone := Carrier.beforeDock_of_failed bare numbered (Option.some.inj gaveUp)
      have lifted := dockable.carrier.rehouses_undock session.toScene session.settings node
        tearOut.root tearOut.grab
      have airborne : attempted = session.handOver node
          (dockable.carrier.undock session.toScene session.settings node tearOut.root
            tearOut.grab).carrier
          (dockable.carrier.undock session.toScene session.settings node tearOut.root
            tearOut.grab).scene := tried.symm
      dsimp only at undone
      generalize dockable.carrier.undock session.toScene session.settings node tearOut.root
        tearOut.grab = flown at airborne undone lifted
      have landed := flown.carrier.rehouses_beforeDock flown.scene node
      have known : attempted.dockable? node = some { dockable with carrier := flown.carrier } := by
        rw [airborne, dockable?_handOver, if_pos rfl, found]
        rfl
      refine ⟨_, _, layout, undone.1, undone.2, placed, lifted.trans landed, ?_⟩
      rw [Tree.detach_of_parent?_eq_none rooted, Option.none_or, slot, undoTearOut,
        withCarrier_eq_handOver known, airborne, handOver_handOver]
      rfl

section PullFails

variable {left : Session} (fails : session.PullFails target node root hooks left)
  (orderly : session.Orderly) (geared : session.Geared) (numbered : session.desktop.Numbered)
include fails orderly geared numbered

theorem PullFails.left_eq {parent : NodeId} {index : Nat}
    (slot : session.slot? node = some (parent, index)) :
    ∃ dockable carrier ground layout, session.dockable? node = some dockable ∧
      dockable.phase = .docked ∧ carrier.sansGrab = dockable.carrier.sansGrab ∧
      ground.desktop.windows = session.desktop.windows ∧
      (session.removedTree target node hooks).layout? node = some layout ∧
      Rehouses node (session.removedTree target node hooks) ground.tree ∧
      left = { session.handOver node carrier ground with
        tree := (ground.tree.insertChild parent index node).place node layout } := by
  obtain ⟨dockable, found, docked, _⟩ := docked_of_armedChild? target fails.armed
  have bare := (geared node dockable found).docked docked
  obtain ⟨rect, report, _, failed⟩ := fails.failed
  have removed : (hooks.runRemove session.tree target node).1.WellFormed :=
    orderly.wellFormed.edit _
  have rooted : (session.removedTree target node hooks).parent? node = none := by
    rw [removedTree, removed.parent?_detach, if_pos rfl]
  have known : dockable? { session with tree := session.removedTree target node hooks } node =
    some dockable := found
  obtain ⟨carrier, ground, layout, undone⟩ :=
    undone_of_failed known bare numbered rooted slot failed
  exact ⟨dockable, carrier, ground, layout, found, docked, undone⟩

end PullFails

/-! ### After a removal that leaves a placeholder -/

/-- The dockable of a strong drag that failed is not pressed any more, and its carrier may
remember another grab. All else is as it was before, and the placeholder, which got the next
identifier, is gone. -/
structure Returned (node : NodeId) (before after : Session) : Prop where
  dockables_eq : ∃ dockable carrier, before.dockable? node = some dockable ∧
    dockable.phase = .docked ∧ carrier.sansGrab = dockable.carrier.sansGrab ∧
    after.dockables = before.dockables.modify node fun dockable =>
      { dockable with press := none, carrier }
  inFlight_eq : after.inFlight = none
  outbox_eq : after.outbox = before.outbox
  settings_eq : after.settings = before.settings
  windows_eq : after.desktop.windows = before.desktop.windows
  tree : Regained before.tree node before.tree.nextId after.tree
  destroyed_eq : after.tree.destroyed = []

theorem placeholderBehind?_of_doubled {before after : Tree} {parent box : NodeId}
    {early late : List NodeId} {rect : Rect}
    (doubled : Tree.Doubled before node parent box early late rect after)
    (comparable : rect.isComparable = true) :
    placeholderBehind? after node (some (parent, early.length)) = some box := by
  have placed : after.layout? node = some rect :=
    (doubled.layout?_eq node (.inl rfl) (doubled.box_ne doubled.slot.present).symm).trans
      doubled.slot.layout?_eq
  unfold placeholderBehind?
  dsimp only
  rw [doubled.getElem?_children]
  refine Option.filter_some_pos ?_
  rw [doubled.isTargetBox, doubled.layout?_box, placed]
  exact Rect.beq_self_of_isComparable comparable

theorem returned_of_leavesBox {left : Session}
    (fails : session.PullFails target node root hooks left) (orderly : session.Orderly)
    (geared : session.Geared) (numbered : session.desktop.Numbered)
    (recordless : session.tree.destroyed = []) (leavesBox : hooks.remove = Hooks.readyMade.remove)
    (comparable : ∀ rect, session.tree.layout? node = some rect → rect.isComparable = true) :
    Returned node session ((left.letGo node).dropBehind node (session.slot? node)) := by
  obtain ⟨early, late, rect, slot, slot_eq⟩ := orderly.slot fails.armed
  have vacated := Tree.vacated_removeLeavingBox slot
  have removed_eq := removedTree_of_leavesBox slot leavesBox
  obtain ⟨dockable, carrier, ground, layout, found, docked, grab_eq, windows_eq, shown, rehouses,
    rfl⟩ := fails.left_eq orderly geared numbered slot_eq
  rw [removed_eq] at shown rehouses
  rw [Tree.layout?_eq_map, Tree.look?_removeLeavingBox slot,
    if_neg (orderly.wellFormed.ne_nextId slot.present), ← Tree.layout?_eq_map,
    slot.layout?_eq] at shown
  cases shown
  have doubled := (vacated.rehouses rehouses).hang
  have behind := placeholderBehind?_of_doubled doubled (comparable rect slot.layout?_eq)
  generalize (ground.tree.insertChild target early.length node).place node rect = hung
    at doubled behind ⊢
  have calmed : letGo { session.handOver node carrier ground with tree := hung } node =
      { session with
        tree := hung
        desktop := ground.desktop
        dockables := session.dockables.modify node fun dockable =>
          { dockable with press := none, carrier } } := by
    simp only [letGo, handOver, update, Table.modify_modify]
  rw [calmed, slot_eq, dropBehind]
  dsimp only
  rw [behind]
  dsimp only [destroyWidget]
  have record : (hung.destroy session.tree.nextId).1.destroyed = [session.tree.nextId] := by
    rw [doubled.destroyed_destroy, recordless]
    rfl
  have flight_eq (tree : Tree) : flight { session with
      tree
      desktop := ground.desktop
      dockables := session.dockables.modify node fun dockable =>
        { dockable with press := none, carrier } } = session.flight :=
    flight_update_of_eq { session with tree, desktop := ground.desktop } node fun _ => rfl
  rw [syncDestroyed_of_grounded]
  · exact {
      dockables_eq := ⟨dockable, carrier, found, docked, grab_eq, rfl⟩
      inFlight_eq := fails.grounded
      outbox_eq := rfl
      settings_eq := rfl
      windows_eq := windows_eq
      tree := doubled.destroy.forgetDestroyed
      destroyed_eq := rfl }
  · rw [flight_eq]
    exact orderly.single
  · exact fails.grounded
  · intro gone lost
    rw [record, List.mem_singleton] at lost
    rw [← standing?_eq_none_iff, flight_eq, lost, standing?_eq_none_iff]
    exact orderly.fresh

/-- A strong drag that the carrier fails changes nothing but the press of the dockable, whoever
its siblings are. -/
theorem strongDrag_failsAtomically_run (capabilities : Capabilities) (settings : Settings)
    (operations : List Operation) {left : Session}
    (fails : ((start (.withCapabilities capabilities) settings).run operations).PullFails target
      node root hooks left)
    (recordless : ((start (.withCapabilities capabilities) settings).run
      operations).tree.destroyed = [])
    (leavesBox : hooks.remove = Hooks.readyMade.remove)
    (comparable : ∀ rect, ((start (.withCapabilities capabilities) settings).run
      operations).tree.layout? node = some rect → rect.isComparable = true) :
    let session := (start (.withCapabilities capabilities) settings).run operations
    let reaction := session.targetEvent target (.pointerMove root) hooks
    reaction.status = .understoodOnly ∧ Returned node session reaction.session := by
  dsimp only
  rw [targetEvent_of_pullFails fails]
  exact ⟨rfl, returned_of_leavesBox fails (orderly_run _ settings operations)
    (geared_run _ settings operations)
    ((driven_run _ settings operations).numbered (Desktop.numbered_withCapabilities capabilities))
    recordless leavesBox comparable⟩

/-- A pressed dockable with an older placeholder behind it that lies where it lies, before a
compositor that cannot start a drag. -/
def crowded : Session :=
  (start (.withCapabilities { Capabilities.none with systemDrag := true }) .standard).run
    [.edit (.add (.newPanel "area") ⟨0, 0, 800, 600⟩),
      .create { DockablePlan.new "tool" with container := some (⟨0⟩, none) },
      .edit (.add .newTargetBox ⟨0, 0, 240, 160⟩),
      .edit (.addChild ⟨0⟩ ⟨2⟩),
      .payloadEvent ⟨1⟩ (.pointerDown .primary ⟨10, 10⟩),
      .payloadEvent ⟨1⟩ (.pointerMove ⟨40, 10⟩),
      .command (.setFaults fun request _ =>
        match request with
        | .startSystemDrag .. => some "no seat"
        | _ => none)]

/-- The removal left a placeholder between the dockable and the older one. -/
theorem returned_crowded :
    let reaction := crowded.targetEvent ⟨0⟩ (.pointerMove ⟨40, 10⟩) .readyMade
    reaction.status = .understoodOnly ∧ Returned ⟨1⟩ crowded reaction.session ∧
      crowded.tree.nextId = ⟨3⟩ ∧ reaction.session.tree.children ⟨0⟩ = [⟨1⟩, ⟨2⟩] := by
  have fails : crowded.PullFails ⟨0⟩ ⟨1⟩ ⟨40, 10⟩ .readyMade
      (crowded.pullOut ⟨0⟩ ⟨1⟩ ⟨0, 0, 240, 160⟩ ⟨40, 10⟩ .readyMade).1 := by
    refine ⟨by decide +kernel, by decide +kernel, ⟨0, 0, 240, 160⟩, .system "no seat",
      by decide +kernel, Prod.ext rfl ?_⟩
    rfl
  have failsAtomically := strongDrag_failsAtomically_run _ _ _ fails (by decide +kernel) rfl
    fun rect placed => by
      cases (show crowded.tree.layout? ⟨1⟩ = some ⟨0, 0, 240, 160⟩ by decide +kernel).symm.trans
        placed
      decide +kernel
  exact ⟨failsAtomically.1, failsAtomically.2, by decide +kernel, by decide +kernel⟩

end Session
end Docking

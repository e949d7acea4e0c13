import Docking.Proofs.Session.Command
import Docking.Proofs.Twins.Veil
import Docking.Proofs.Window.Gear
import Mathlib.Data.List.InsertIdx

namespace Docking

/-! A tear-out that fails leaves no trace. Either nothing was begun, or the dockable is back in
its slot among its siblings and the window that was to carry it is closed again. -/

namespace Tree

variable {tree housed : Tree} {node parent : NodeId} {index : Nat}

theorem slot_of_detach (slot : (tree.detach node).2 = some (parent, index)) :
    tree.parent? node = some parent ∧ (tree.children parent).idxOf? node = some index := by
  unfold detach at slot
  split at slot
  · cases slot
  · next upper linked =>
      unfold removeChild at slot
      split at slot
      · cases slot
      · next place indexed =>
          cases slot
          exact ⟨linked, indexed⟩

theorem insertIdx_erase {nodes : List NodeId} (indexed : nodes.idxOf? node = some index) :
    (nodes.erase node).insertIdx (min index (nodes.erase node).length) node = nodes := by
  obtain ⟨bound, here, _⟩ := List.idxOf?_eq_some_iff.mp indexed
  have erased : nodes.erase node = nodes.eraseIdx index := by
    rw [List.erase_eq_eraseIdx, indexed]
  have fits : min index (nodes.eraseIdx index).length = index := by
    rw [List.length_eraseIdx_of_lt bound]
    omega
  rw [erased, fits]
  conv => lhs; arg 3; rw [← here]
  exact List.insertIdx_eraseIdx_getElem bound

theorem sameLinks_reinsert (wellFormed : tree.WellFormed)
    (slot : (tree.detach node).2 = some (parent, index))
    (rehouses : Rehouses node (tree.detach node).1 housed) :
    SameLinks tree (housed.insertChild parent index node) := by
  obtain ⟨linked, indexed⟩ := slot_of_detach slot
  have freed := wellFormed.detach node
  have root : (tree.detach node).1.parent? node = none := by
    rw [wellFormed.parent?_detach, if_pos rfl]
  have kept := rehouses.wellFormed freed
  have admitted : housed.admits parent node = true :=
    freed.admits_congr kept (rehouses.parent?_eq root) (rehouses.contains_eq root)
      (wellFormed.admits_detach linked)
  have children_eq (other : NodeId) :
      (housed.children other).erase node = (tree.children other).erase node := by
    rw [rehouses.children_eq root, wellFormed.children_detach]
    exact List.erase_of_not_mem (wellFormed.children_nodup other).not_mem_erase
  refine ⟨fun other => ?_, fun other => ?_, ?_, ?_⟩
  · rw [kept.mooring?_insertChild index admitted]
    split
    · next same =>
        subst same
        have present := contains_of_parent? linked
        rw [contains_eq_isSome] at present
        obtain ⟨⟨upper, window⟩, moored⟩ := Option.isSome_iff_exists.mp present
        have bare : window = none := by
          cases window with
          | none => rfl
          | some window =>
              have shown : tree.window? other = some window := by
                rw [window?_eq_bind, moored, Option.bind_some]
              exact nomatch (wellFormed.parent?_of_window other window shown).symm.trans linked
        rw [parent?_eq_bind, moored, Option.bind_some] at linked
        rw [moored, bare, ← linked]
    · next different =>
        rw [rehouses.mooring?_eq root different, wellFormed.mooring?_detach, if_neg different]
  · rw [kept.children_insertChild index admitted, children_eq, children_eq]
    split
    · next same =>
        rw [same]
        exact insertIdx_erase indexed
    · next apart =>
        refine List.erase_of_not_mem fun listed => apart ?_
        have relinked := (wellFormed.mem_children_iff other node).mp listed
        exact Option.some.inj (relinked.symm.trans linked)
  · rw [nextIndex_insertChild, rehouses.nextIndex_eq, nextIndex_detach]
  · rw [destroyed_insertChild, rehouses.destroyed_eq, destroyed_detach]

theorem SameLinks.indexOf?_eq {before after : Tree} (same : SameLinks before after)
    (node : NodeId) : after.indexOf? node = before.indexOf? node := by
  simp only [indexOf?, same.parent?_eq, same.children_eq]

end Tree

namespace Desktop.Exchange

variable {old new : Option WindowId} {before middle after : Desktop}

theorem hasWindow_eq_of_undone (opens : Exchange none new before middle)
    (closes : Exchange new none middle after) (numbered : before.Numbered) (window : WindowId) :
    after.hasWindow window = before.hasWindow window := by
  rw [Bool.eq_iff_iff, closes.hasWindow_iff, opens.hasWindow_iff]
  have unknown : before.hasWindow window = true → new ≠ some window := fun present opened =>
    nomatch (opens.not_hasWindow_new numbered opened).symm.trans present
  constructor
  · rintro (opened | ⟨opened | ⟨present, _⟩, apart⟩)
    · cases opened
    · exact absurd opened apart
    · exact present
  · intro present
    exact .inr ⟨.inr ⟨present, nofun⟩, unknown present⟩

end Desktop.Exchange

open Desktop (Exchange)

theorem Scene.exchange_openWindow (scene : Scene) (title : String) (node : NodeId)
    (position : Option Point) :
    Exchange none (scene.openWindow title node position).2.toOption scene.desktop
      (scene.openWindow title node position).1.desktop := by
  have created := scene.desktop.exchange_createWindow (.borderless title position
    (.ofPoint ((scene.tree.layout? node).getD .zero).extent))
  unfold Scene.openWindow
  dsimp only
  split
  · next same =>
      rw [same] at created
      exact created
  · next same =>
      rw [same] at created
      exact created

namespace Carrier

variable (carrier : Carrier) (scene : Scene) (settings : Settings) (node : NodeId)

theorem exchange_takeWindow (bare : carrier.window = none) (position : Option Point) :
    Exchange none (carrier.takeWindow scene settings node position).carrier.window scene.desktop
      (carrier.takeWindow scene settings node position).scene.desktop := by
  have opened := scene.exchange_openWindow settings.windowTitle node position
  unfold takeWindow
  split
  · next same =>
      rw [same] at opened
      rw [bare]
      exact opened
  · next same =>
      rw [same] at opened
      exact opened

theorem exchange_undock (bare : carrier.window = none) (root grab : Point) :
    Exchange none (carrier.undock scene settings node root grab).carrier.window scene.desktop
      (carrier.undock scene settings node root grab).scene.desktop := by
  obtain ⟨means, window⟩ := carrier
  subst bare
  unfold undock
  split
  · have dropped := exchange_dropWindow ⟨.generic grab, none⟩ scene node
    exact dropped.prepare (exchange_takeWindow _ _ settings node (window_dropWindow _ scene node) _)
  · have dropped := exchange_dropWindow ⟨means, none⟩ scene node
    have taken := dropped.prepare (exchange_takeWindow _ _ settings node
      (window_dropWindow ⟨means, none⟩ scene node) none)
    dsimp only
    split
    · exact taken
    · next window _ =>
        have started := taken.conclude (Desktop.exchange_startSystemDrag _ window
          ⟨settings.markerMime, markerData node⟩)
        split
        · next same =>
            rw [same] at started
            exact started
        · next same =>
            rw [same] at started
            exact started
  · have dropped := exchange_dropWindow ⟨means, none⟩ scene node
    dsimp only
    rw [window_dropWindow]
    exact dropped.conclude (exchange_showCursor _ settings node grab)

end Carrier

namespace Session

variable {session : Session} {node : NodeId}

/-- A docked dockable is as it was before, and so is all that it had to do with. Its carrier may
remember an attempt, but owns nothing. -/
structure Restored (node : NodeId) (before after : Session) : Prop where
  dockable : ∃ dockable carrier, before.dockable? node = some dockable ∧
    after.dockable? node = some { dockable with carrier } ∧ dockable.phase = .docked ∧
      dockable.activeTarget = none ∧ dockable.originTarget = none ∧
        dockable.carrier.window = none ∧ carrier.window = none ∧
          carrier.kind = dockable.carrier.kind
  dockable?_eq : ∀ other, other ≠ node → after.dockable? other = before.dockable? other
  inFlight : before.inFlight = none ∧ after.inFlight = none
  outbox_eq : after.outbox = before.outbox
  settings_eq : after.settings = before.settings
  contains_eq : ∀ other, after.tree.contains other = before.tree.contains other
  parent?_eq : ∀ other, after.tree.parent? other = before.tree.parent? other
  children_eq : ∀ other, after.tree.children other = before.tree.children other
  indexOf?_eq : ∀ other, after.tree.indexOf? other = before.tree.indexOf? other
  window?_eq : ∀ other, after.tree.window? other = before.tree.window? other
  destroyed_eq : after.tree.destroyed = before.tree.destroyed
  layout?_eq : after.tree.layout? node = before.tree.layout? node
  hasWindow_eq : ∀ window, after.desktop.hasWindow window = before.desktop.hasWindow window

theorem Orderly.atRest_of_docked (orderly : session.Orderly) {dockable : Dockable}
    (found : session.dockable? node = some dockable) (docked : dockable.phase = .docked) :
    dockable.activeTarget = none ∧ dockable.originTarget = none := by
  have sound := orderly.single.sound node _ (standing?_of_dockable? found)
  refine ⟨sound.activeTarget_eq_none ?_, sound.originTarget_eq_none ?_⟩
  · exact fun hovering => nomatch docked.symm.trans hovering
  · exact congrArg Phase.isInFlight docked

theorem Orderly.inFlight_eq_none (orderly : session.Orderly) {dockable : Dockable}
    (found : session.dockable? node = some dockable) (docked : dockable.phase = .docked)
    (alone : session.otherInFlight? node = none) : session.inFlight = none := by
  cases flying : session.inFlight with
  | none => rfl
  | some other =>
      obtain ⟨flown, refound, inFlight⟩ := orderly.dockable?_of_inFlight flying
      have same : other = node := by
        rw [otherInFlight?, flying, Option.filter_eq_none_iff] at alone
        simpa using alone other rfl
      subst same
      rw [found] at refound
      cases refound
      rw [Dockable.isInFlight, docked] at inFlight
      cases inFlight

def handOver (session : Session) (node : NodeId) (carrier : Carrier) (scene : Scene) : Session :=
  Session.update { session with toScene := scene } node fun dockable => { dockable with carrier }

theorem dockable?_handOver (session : Session) (node : NodeId) (carrier : Carrier) (scene : Scene)
    (other : NodeId) :
    (session.handOver node carrier scene).dockable? other =
      if other = node then (session.dockable? node).map fun dockable => { dockable with carrier }
      else session.dockable? other := by
  unfold handOver
  rw [dockable?_update]
  rfl

theorem attemptFlight_eq_handOver {dockable : Dockable} {tearOut : TearOut} {attempted : Session}
    {result : Option (Except DesktopError Unit)}
    (found : session.dockable? node = some dockable) (bare : dockable.carrier.window = none)
    (tried : session.attemptFlight node tearOut = (attempted, result)) :
    ∃ carrier scene, attempted = session.handOver node carrier scene ∧
      carrier.kind = dockable.carrier.kind ∧
        Tree.Rehouses node (session.tree.detach node).1 scene.tree ∧
          Exchange none carrier.window session.desktop scene.desktop := by
  have freed : ({ session with tree := (session.tree.detach node).1 } : Session).dockable? node =
      some dockable := found
  unfold attemptFlight tryCarrier at tried
  rw [freed] at tried
  cases tried
  exact ⟨_, _, rfl, dockable.carrier.kind_undock _ session.settings node _ _,
    dockable.carrier.rehouses_undock ⟨(session.tree.detach node).1, session.desktop⟩
      session.settings node _ _,
    dockable.carrier.exchange_undock ⟨(session.tree.detach node).1, session.desktop⟩
      session.settings node bare _ _⟩

theorem beforeDock_eq_handOver {dockable : Dockable}
    (found : session.dockable? node = some dockable) :
    ∃ carrier scene, session.withCarrier node (fun carrier scene => carrier.beforeDock scene node) =
        session.handOver node carrier scene ∧
      carrier.kind = dockable.carrier.kind ∧ carrier.window = none ∧
        Tree.Rehouses node session.tree scene.tree ∧
          Exchange dockable.carrier.window none session.desktop scene.desktop := by
  unfold withCarrier
  rw [found]
  exact ⟨_, _, rfl, dockable.carrier.kind_beforeDock session.toScene node,
    dockable.carrier.window_beforeDock session.toScene node,
    dockable.carrier.rehouses_beforeDock session.toScene node,
    dockable.carrier.exchange_beforeDock session.toScene node⟩

theorem restored_undoTearOut (orderly : session.Orderly) (geared : session.Geared)
    (numbered : session.desktop.Numbered) {dockable : Dockable} {parent : NodeId}
    {layout : Rect} {tearOut : TearOut} {attempted : Session}
    {result : Option (Except DesktopError Unit)}
    (found : session.dockable? node = some dockable) (docked : dockable.phase = .docked)
    (linked : session.tree.parent? node = some parent)
    (alone : session.otherInFlight? node = none)
    (placed : session.tree.layout? node = some layout)
    (tried : session.attemptFlight node tearOut = (attempted, result)) :
    Restored node session (attempted.undoTearOut node layout
      ((session.tree.detach node).2.or tearOut.slot) tearOut.root) := by
  obtain ⟨index, slot⟩ := orderly.wellFormed.detach_snd_of_parent? linked
  have bare := (geared node dockable found).docked docked
  obtain ⟨flown, air, rfl, flown_kind, lifts, opens⟩ := attemptFlight_eq_handOver found bare tried
  have known : (session.handOver node flown air).dockable? node =
      some { dockable with carrier := flown } := by
    rw [dockable?_handOver, if_pos rfl, found, Option.map_some]
  obtain ⟨carrier, ground, grounded, kind_eq, dropped, lands, closes⟩ :=
    beforeDock_eq_handOver known
  have reinserted := Tree.sameLinks_reinsert orderly.wellFormed slot (lifts.trans lands)
  have links := reinserted.trans (.place _ node layout)
  have alighted : (session.handOver node flown air).undoTearOut node layout
      ((session.tree.detach node).2.or tearOut.slot) tearOut.root =
        { (session.handOver node flown air).handOver node carrier ground with
          tree := (ground.tree.insertChild parent index node).place node layout } := by
    unfold undoTearOut
    rw [slot, Option.some_or, grounded]
    rfl
  rw [alighted]
  obtain ⟨aimless, settled⟩ := orderly.atRest_of_docked found docked
  have landed := orderly.inFlight_eq_none found docked alone
  refine {
    dockable := ⟨dockable, carrier, found, ?_, docked, aimless, settled, bare, dropped,
      kind_eq.trans flown_kind⟩
    dockable?_eq := fun other different => ?_
    inFlight := ⟨landed, landed⟩
    outbox_eq := rfl
    settings_eq := rfl
    contains_eq := links.contains_eq
    parent?_eq := links.parent?_eq
    children_eq := links.children_eq
    indexOf?_eq := links.indexOf?_eq
    window?_eq := links.window?_eq
    destroyed_eq := links.destroyed_eq
    layout?_eq := ?_
    hasWindow_eq := opens.hasWindow_eq_of_undone closes numbered }
  · exact (dockable?_handOver _ node carrier ground node).trans
      ((if_pos rfl).trans (congrArg (Option.map _) known))
  · exact ((dockable?_handOver _ node carrier ground other).trans (if_neg different)).trans
      ((dockable?_handOver session node flown air other).trans (if_neg different))
  · obtain ⟨housed, shown⟩ := Tree.layout?_of_contains
      ((reinserted.contains_eq node).trans (Tree.contains_of_parent? linked))
    rw [Tree.layout?_place (reinserted.wellFormed orderly.wellFormed), shown, Option.map_some,
      placed]

/-- Whatever keeps a tear-out from succeeding, it leaves things as they were. -/
structure FailsAtomically (node : NodeId) (root : Point) (session : Session) : Prop where
  declined : ∀ error, (session.tearOut node root).2 = .error error →
    (∀ report, error ≠ .desktop report) → (session.tearOut node root).1 = session
  rolledBack : ∀ dockable parent report, session.dockable? node = some dockable →
    dockable.phase = .docked → session.tree.parent? node = some parent →
      (session.tearOut node root).2 = .error (.desktop report) →
        Restored node session (session.tearOut node root).1

theorem failsAtomically (orderly : session.Orderly) (geared : session.Geared)
    (numbered : session.desktop.Numbered) (root : Point) :
    session.FailsAtomically node root := by
  rcases session.staysPut_or_begins node root with ⟨result, stays⟩ | ⟨dockable, asked, begins⟩
  · refine ⟨fun error _ _ => ?_, fun dockable parent report _ _ _ failed => ?_⟩
    · rw [stays.unchanged]
    · rw [stays.unchanged] at failed
      exact absurd failed (stays.unasked report)
  · have begun := session.dragBegun_beginDrag node asked
    rw [← begins.begun] at begun
    have found := begins.found
    constructor
    · intro error failed unasked
      generalize session.tearOut node root = outcome at begun failed ⊢
      cases begun with
      | declined => rfl
      | unknown alone missing => exact nomatch missing.symm.trans found
      | failed =>
          cases failed
          exact absurd rfl (unasked _)
      | launched => cases failed
    · intro dockable parent report known docked linked failed
      generalize session.tearOut node root = outcome at begun failed ⊢
      cases begun with
      | declined hindered unasked =>
          cases failed
          exact absurd rfl (unasked report)
      | unknown => cases failed
      | failed alone placed found tried =>
          exact restored_undoTearOut orderly geared numbered known docked linked alone placed tried
      | launched => cases failed

theorem failsAtomically_run (capabilities : Capabilities) (settings : Settings)
    (operations : List Operation) (node : NodeId) (root : Point) :
    ((start (.withCapabilities capabilities) settings).run operations).FailsAtomically node root :=
  failsAtomically (orderly_run _ settings operations) (geared_run _ settings operations)
    ((driven_run _ settings operations).numbered (Desktop.numbered_withCapabilities capabilities))
    root

/-- Three dockables in one container, before a compositor that cannot start a drag. -/
def stuck : Session :=
  (start (.withCapabilities { Capabilities.none with systemDrag := true }) .standard).run
    [.edit (.add .newTargetBox ⟨0, 0, 9, 9⟩),
      .create { DockablePlan.new "first" with container := some (⟨0⟩, none) },
      .create { DockablePlan.new "second" with container := some (⟨0⟩, none) },
      .create { DockablePlan.new "third" with container := some (⟨0⟩, none) },
      .command (.setFaults fun request _ =>
        match request with
        | .startSystemDrag .. => some "no seat"
        | _ => none)]

/-- The window was open and the dockable in it when the compositor refused. -/
theorem restored_stuck :
    Restored ⟨2⟩ stuck (stuck.tearOut ⟨2⟩ .zero).1 ∧
      (stuck.tearOut ⟨2⟩ .zero).1.desktop.countCalls DesktopCall.isCreation = 1 ∧
        stuck.tree.indexOf? ⟨2⟩ = some 1 := by
  refine ⟨?_, by decide +kernel, by decide +kernel⟩
  have reports : (stuck.tearOut ⟨2⟩ .zero).2 = .error (.desktop (.system "no seat")) := by
    rfl
  exact (failsAtomically_run _ _ _ ⟨2⟩ .zero).rolledBack _ ⟨0⟩ _ rfl rfl (by decide +kernel) reports

end Session
end Docking

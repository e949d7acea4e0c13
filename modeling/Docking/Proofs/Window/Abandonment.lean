import Docking.Proofs.Window.Fallback
import Docking.Proofs.Window.Ownership

namespace Docking

/-! What becomes of the window of a dockable that comes to rest. A window in which the tree shows
the dockable is kept. Any other is replaced by a new one, and nobody closes it. -/

namespace Carrier

variable (carrier : Carrier) (scene : Scene) (settings : Settings) (node : NodeId)

/-- A carrier in whose window the dockable is shown settles for that. Any other asks for a new
window and forgets the one it has, without closing it. -/
theorem settle_cases (root : Point) :
    (carrier.ownsWindowOf scene.tree node = true ∧
        carrier.settle scene settings node root = ⟨carrier, scene, .ok ()⟩) ∨
      carrier.ownsWindowOf scene.tree node = false ∧
        ((∃ desktop report, carrier.settle scene settings node root =
            ⟨carrier, { scene with desktop }, .error report⟩ ∧
            desktop.windows = scene.desktop.windows) ∨
          ∃ tree desktop opened, carrier.settle scene settings node root =
            ⟨{ carrier with window := some ⟨scene.desktop.nextNumber⟩ }, ⟨tree, desktop⟩, .ok ()⟩ ∧
            desktop.windows = scene.desktop.windows.insert ⟨scene.desktop.nextNumber⟩ opened) := by
  unfold settle
  split
  · next owns => exact .inl ⟨owns, rfl⟩
  · next displaced =>
      refine .inr ⟨eq_false_of_ne_true displaced, ?_⟩
      unfold takeWindow
      rcases scene.openWindow_cases settings.windowTitle node (carrier.settlePosition root) with
        ⟨desktop, report, refused, same⟩ | ⟨tree, desktop, opened, granted, inserted⟩
      · rw [refused]
        exact .inl ⟨desktop, report, rfl, same⟩
      · rw [granted]
        exact .inr ⟨tree, desktop, opened, rfl, inserted⟩

theorem windows_afterRelease :
    (carrier.afterRelease scene).2.desktop.windows = scene.desktop.windows := by
  unfold afterRelease clearCursor
  split
  · rfl
  · rfl
  · dsimp only
    split <;> rfl

end Carrier

namespace Session

variable {session : Session} {node : NodeId}

theorem toScene_leaveActiveTarget (session : Session) (node : NodeId) :
    (session.leaveActiveTarget node).toScene = session.toScene := by
  unfold leaveActiveTarget
  split <;> rfl

section Settling

variable {dockable : Dockable} (found : session.dockable? node = some dockable)
include found

theorem comeToRest_eq_handOver (root : Point) :
    let settled := dockable.carrier.settle session.toScene session.settings node root
    let released := settled.carrier.afterRelease settled.scene
    (session.settleCarrier node root).withCarrier node Carrier.afterRelease =
      session.handOver node released.1 released.2 := by
  have settled : session.settleCarrier node root = session.handOver node
      (dockable.carrier.settle session.toScene session.settings node root).carrier
      (dockable.carrier.settle session.toScene session.settings node root).scene := by
    unfold settleCarrier tryCarrier
    rw [found]
    rfl
  have known : (session.settleCarrier node root).dockable? node = some
      { dockable with
        carrier :=
          (dockable.carrier.settle session.toScene session.settings node root).carrier } := by
    rw [settled, dockable?_handOver, if_pos rfl, found]
    rfl
  rw [withCarrier_eq_handOver known, settled, handOver_handOver]
  rfl

theorem settleUndocked_agrees_handOver (root : Point) :
    let settled := dockable.carrier.settle session.toScene session.settings node root
    let released := settled.carrier.afterRelease settled.scene
    (session.settleUndocked node root).desktop = released.2.desktop ∧
      ∀ other, (session.settleUndocked node root).owned? other =
        (session.handOver node released.1 released.2).owned? other := by
  have rested := comeToRest_eq_handOver (dockable?_leaveActiveTarget found) root
  have settings_eq : (session.leaveActiveTarget node).settings = session.settings := by
    unfold leaveActiveTarget
    split <;> rfl
  rw [toScene_leaveActiveTarget, settings_eq] at rested
  dsimp only at rested ⊢
  unfold settleUndocked
  rw [rested]
  generalize dockable.carrier.settle session.toScene session.settings node root = settled
  have owned (other : NodeId) : ((((session.leaveActiveTarget node).handOver node
      (settled.carrier.afterRelease settled.scene).1
      (settled.carrier.afterRelease settled.scene).2).update node fun dockable =>
        { dockable with originTarget := none }).enterPhase node .undocked).owned? other =
      (session.handOver node (settled.carrier.afterRelease settled.scene).1
        (settled.carrier.afterRelease settled.scene).2).owned? other := by
    rw [owned?_enterPhase, owned?_update, owned?, dockable?_handOver, owned?, dockable?_handOver]
    · split
      · rw [dockable?_leaveActiveTarget found, found]
        rfl
      · exact session.owned?_leaveActiveTarget node other
    · exact fun _ => rfl
  dsimp only
  split
  · exact ⟨desktop_enterPhase _ node .undocked, owned⟩
  · exact ⟨desktop_enterPhase _ node .undocked, owned⟩

theorem windows_settleUndocked (root : Point) :
    (session.settleUndocked node root).desktop.windows =
      (dockable.carrier.settle session.toScene session.settings node
        root).scene.desktop.windows := by
  rw [(settleUndocked_agrees_handOver found root).1, Carrier.windows_afterRelease]

theorem owned?_settleUndocked (root : Point) (other : NodeId) :
    (session.settleUndocked node root).owned? other =
      if other = node then
        (dockable.carrier.settle session.toScene session.settings node root).carrier.window
      else session.owned? other := by
  rw [(settleUndocked_agrees_handOver found root).2, owned?, dockable?_handOver]
  split
  · rw [found]
    exact Carrier.window_afterRelease _ _
  · rfl

end Settling

/-- A window that is open, but of which no carrier knows. -/
def Stray (session : Session) (window : WindowId) : Prop :=
  session.desktop.hasWindow window = true ∧ ∀ node, session.owned? node ≠ some window

/-- The tree has lost sight of the window, and another one was opened in its place. -/
def Replaces (session : Session) (node : NodeId) (dockable : Dockable) (window : WindowId)
    (root : Point) : Prop :=
  session.tree.window? node ≠ some window ∧
    (dockable.carrier.settle session.toScene session.settings node root).result = .ok ()

theorem stray_settleUndocked_iff (exclusive : session.Exclusive) {dockable : Dockable}
    (found : session.dockable? node = some dockable) {window : WindowId}
    (owned : dockable.window = some window) (opened : session.desktop.hasWindow window = true)
    (root : Point) :
    let after := session.settleUndocked node root
    after.desktop.hasWindow window = true ∧
      (after.owned? node = some window ↔ ¬ session.Replaces node dockable window root) ∧
      (after.Stray window ↔ session.Replaces node dockable window root) := by
  have owns := (owned?_of_dockable? found).trans owned
  -- windows are numbered upwards, so one that is opened now is not the one that was owned
  have older : (⟨session.desktop.nextNumber⟩ : WindowId) ≠ window := by
    rintro rfl
    exact Nat.lt_irrefl _ (exclusive.number_lt node _ owns)
  have shown_iff : dockable.carrier.ownsWindowOf session.tree node = true ↔
      session.tree.window? node = some window := by
    rw [Carrier.ownsWindowOf, show dockable.carrier.window = some window from owned]
    simp [eq_comm]
  have owned_eq := owned?_settleUndocked found root
  have windows_eq := windows_settleUndocked found root
  have settled := dockable.carrier.settle_cases session.toScene session.settings node root
  unfold Replaces Stray Desktop.hasWindow
  dsimp only
  generalize session.settleUndocked node root = after at owned_eq windows_eq ⊢
  generalize dockable.carrier.settle session.toScene session.settings node root = outcome
    at owned_eq windows_eq settled ⊢
  have kept (same : outcome.carrier = dockable.carrier) : after.owned? node = some window := by
    rw [owned_eq, if_pos rfl, same]
    exact owned
  rw [windows_eq]
  rcases settled with ⟨shown, rfl⟩ | ⟨displaced, ⟨desktop, report, rfl, same⟩ |
    ⟨tree, desktop, fresh, rfl, inserted⟩⟩
  · have owns := kept rfl
    have seen := shown_iff.mp shown
    refine ⟨opened, ?_, ?_⟩
    · simp [owns, seen]
    · simp only [seen, ne_eq, not_true_eq_false, false_and, iff_false]
      exact fun stray => stray.2 node owns
  · have owns := kept rfl
    refine ⟨?_, ?_, ?_⟩
    · rw [same]
      exact opened
    · simp [owns]
    · simp only [reduceCtorEq, and_false, iff_false]
      exact fun stray => stray.2 node owns
  · have unseen : session.tree.window? node ≠ some window := fun seen =>
      Bool.false_ne_true (displaced.symm.trans (shown_iff.mpr seen))
    have present : desktop.windows.contains window = true := by
      rw [inserted, Table.contains, Table.get?_insert, if_neg older.symm]
      exact opened
    have unowned (other : NodeId) : after.owned? other ≠ some window := by
      rw [owned_eq]
      split
      · exact fun claims => older (Option.some.inj claims)
      · next apart => exact fun claims => apart (exclusive.distinct other node window claims owns)
    exact ⟨present, by simp [unowned node, unseen], by simp [present, unowned, unseen]⟩

/-- A dockable that comes to rest leaves its window open behind it, for nobody to close, if and
only if the tree does not show the dockable there and another window can be had. That is so at
every point of every operation, whatever the application has done to the tree. -/
theorem stray_settleUndocked_iff_run (capabilities : Capabilities) (settings : Settings)
    (operations : List Operation)
    (deeds : Deeds ((start (.withCapabilities capabilities) settings).run operations) session)
    {dockable : Dockable} (found : session.dockable? node = some dockable) {window : WindowId}
    (owned : dockable.window = some window) (opened : session.desktop.hasWindow window = true)
    (root : Point) :
    let after := session.settleUndocked node root
    after.desktop.hasWindow window = true ∧
      (after.owned? node = some window ↔ ¬ session.Replaces node dockable window root) ∧
      (after.Stray window ↔ session.Replaces node dockable window root) :=
  stray_settleUndocked_iff ((exclusive_run _ settings operations).deeds deeds) found owned opened
    root

/-- The application has hung a dockable in flight below a panel. -/
def displaced : Session :=
  (start (.withCapabilities { Capabilities.none with reposition := true }) .standard).run
    [.edit (.add (.newPanel "area") ⟨0, 0, 800, 600⟩),
      .create { DockablePlan.new "tool" with layout := ⟨100, 100, 200, 150⟩ },
      .tearOut ⟨1⟩ ⟨110, 110⟩,
      .edit (.addChild ⟨0⟩ ⟨1⟩)]

theorem stray_displaced :
    let after := displaced.perform (.payloadEvent ⟨1⟩ .grabLost)
    displaced.owned? ⟨1⟩ = some ⟨2⟩ ∧ after.owned? ⟨1⟩ = some ⟨3⟩ ∧ after.Stray ⟨2⟩ := by
  have known : (displaced.dockable? ⟨1⟩).isSome = true := by decide +kernel
  obtain ⟨dockable, found⟩ := Option.isSome_iff_exists.mp known
  have flying : dockable.isInFlight = true := by
    have flies : (displaced.dockable? ⟨1⟩).all Dockable.isInFlight = true := by decide +kernel
    rwa [found] at flies
  have owned : displaced.owned? ⟨1⟩ = some ⟨2⟩ := by decide +kernel
  have lost : displaced.Replaces ⟨1⟩ dockable ⟨2⟩ displaced.desktop.pointer.root := by
    refine ⟨by decide +kernel, ?_⟩
    have opens : (displaced.dockable? ⟨1⟩).all (fun dockable =>
        (dockable.carrier.settle displaced.toScene displaced.settings ⟨1⟩
          displaced.desktop.pointer.root).result = .ok ()) = true := by decide +kernel
    rw [found] at opens
    exact of_decide_eq_true opens
  have strays := stray_settleUndocked_iff_run _ _ _ .refl found
    ((owned?_of_dockable? found).symm.trans owned) (by decide +kernel)
    displaced.desktop.pointer.root
  dsimp only [perform]
  rw [payloadEvent_grabLost found flying]
  exact ⟨owned, by decide +kernel, strays.2.2.mpr lost⟩

end Session
end Docking

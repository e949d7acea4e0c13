import Docking.Proofs.Window.Lodging

namespace Docking

/-! Whatever a carrier does for its dockable, and wherever the windowing system fails it,
the window it owns afterwards is the one that shows the dockable, and no window is left
behind. -/

/-- A carrier that owns `window` attends to `node` below `parent`. All is in order but
whether the dockable counts as docked; the other nodes are moored as they were. -/
structure Hosts (survey : Survey) (lodgings : Lodgings)
    (moorings : NodeId → Option Mooring) (node : NodeId) (docked : Bool)
    (parent : Option NodeId) (window : Option WindowId) (scene : Scene) : Prop where
  house : House survey (· = node)
    (Function.update lodgings node (some ⟨docked, window⟩)) scene
  mooring?_eq : scene.tree.mooring? node = some ⟨parent, window⟩
  elsewhere : ∀ other, other ≠ node → scene.tree.mooring? other = moorings other

namespace Hosts

variable {survey : Survey} {lodgings : Lodgings}
  {moorings : NodeId → Option Mooring} {node : NodeId} {docked : Bool}
  {parent : Option NodeId} {scene : Scene}

theorem exchange {old new : Option WindowId} {after : Scene}
    (hosts : Hosts survey lodgings moorings node docked parent old scene)
    (exchange : Desktop.Exchange old new scene.desktop after.desktop)
    (wellFormed : after.tree.WellFormed)
    (elsewhere : ∀ other, other ≠ node →
      after.tree.mooring? other = scene.tree.mooring? other)
    (mooring?_eq : after.tree.mooring? node = some ⟨parent, new⟩) :
    Hosts survey lodgings moorings node docked parent new after where
  house := by
    have owned : Lodgings.window?
        (Function.update lodgings node (some ⟨docked, old⟩)) node = old := by
      rw [Lodgings.window?_update, if_pos rfl, Option.bind_some]
    rw [← owned] at exchange
    have exchanged := @House.exchange _ _ _ _ hosts.house node (some ⟨docked, new⟩) after
      exchange wellFormed elsewhere fun _ => rfl
    rw [Function.update_idem] at exchanged
    exact exchanged
  mooring?_eq := mooring?_eq
  elsewhere other different :=
    (elsewhere other different).trans (hosts.elsewhere other different)

theorem request {window : Option WindowId} {desktop : Desktop}
    (hosts : Hosts survey lodgings moorings node docked parent window scene)
    (exchange : Desktop.Exchange none none scene.desktop desktop) :
    Hosts survey lodgings moorings node docked parent window { scene with desktop } :=
  ⟨hosts.house.request exchange, hosts.mooring?_eq, hosts.elsewhere⟩

theorem sameLinks {window : Option WindowId} {tree : Tree}
    (hosts : Hosts survey lodgings moorings node docked parent window scene)
    (same : Tree.SameLinks scene.tree tree) :
    Hosts survey lodgings moorings node docked parent window { scene with tree } where
  house := hosts.house.sameLinks same
  mooring?_eq := (same.mooring?_eq node).trans hosts.mooring?_eq
  elsewhere other different :=
    (same.mooring?_eq other).trans (hosts.elsewhere other different)

theorem parent?_eq {window : Option WindowId}
    (hosts : Hosts survey lodgings moorings node docked parent window scene) :
    scene.tree.parent? node = parent := by
  rw [Tree.parent?_eq_bind, hosts.mooring?_eq, Option.bind_some]

theorem window?_eq {window : Option WindowId}
    (hosts : Hosts survey lodgings moorings node docked parent window scene) :
    scene.tree.window? node = window := by
  rw [Tree.window?_eq_bind, hosts.mooring?_eq, Option.bind_some]

theorem closeWindow {window : WindowId}
    (hosts : Hosts survey lodgings moorings node docked parent (some window) scene) :
    Hosts survey lodgings moorings node docked parent none (scene.closeWindow node window) := by
  have tree_eq : (scene.closeWindow node window).tree = scene.tree.detachWindow node :=
    if_pos hosts.window?_eq
  refine hosts.exchange (scene.desktop.exchange_destroyWindow window) ?_ ?_ ?_
  · rw [tree_eq]
    exact hosts.house.wellFormed.detachWindow node
  · intro other different
    rw [tree_eq, Tree.mooring?_detachWindow, if_neg different]
  · rw [tree_eq, Tree.mooring?_detachWindow, if_pos rfl, hosts.mooring?_eq]
    rfl

theorem openWindow (hosts : Hosts survey lodgings moorings node docked none none scene)
    (title : String) (position : Option Point) :
    Hosts survey lodgings moorings node docked none
      (scene.openWindow title node position).2.toOption
      (scene.openWindow title node position).1 := by
  unfold Scene.openWindow
  dsimp only
  generalize asked : WindowDescriptor.borderless title position _ = descriptor
  have created := scene.desktop.exchange_createWindow descriptor
  generalize scene.desktop.createWindow descriptor = outcome at created ⊢
  obtain ⟨desktop, result⟩ := outcome
  cases result with
  | error error => exact hosts.request created
  | ok window =>
      dsimp only
      rw [Tree.detach_of_parent?_eq_none hosts.parent?_eq]
      generalize Rect.placedAt _ _ = rect
      have placed := Tree.SameLinks.place scene.tree node rect
      have root : (scene.tree.place node rect).parent? node = none := by
        rw [placed.parent?_eq, hosts.parent?_eq]
      refine hosts.exchange created ?_ ?_ ?_
      · exact (placed.wellFormed hosts.house.wellFormed).attachWindow node window
      · intro other different
        dsimp only
        rw [Tree.mooring?_attachWindow, if_neg fun both => different both.1, placed.mooring?_eq]
      · dsimp only
        rw [Tree.mooring?_attachWindow, if_pos ⟨rfl, root⟩, placed.mooring?_eq,
          hosts.mooring?_eq]
        rfl

end Hosts

namespace Carrier

variable (carrier : Carrier) (scene : Scene) (settings : Settings) (node : NodeId)

@[simp] theorem window_dropWindow : (carrier.dropWindow scene node).1.window = none := by
  unfold dropWindow
  split
  · assumption
  · rfl

@[simp] theorem window_clearCursor : (carrier.clearCursor scene).1.window = carrier.window := by
  unfold clearCursor
  split <;> rfl

@[simp] theorem window_beforeDock : (carrier.beforeDock scene node).1.window = none :=
  window_dropWindow _ _ node

@[simp] theorem window_afterRelease :
    (carrier.afterRelease scene).1.window = carrier.window := by
  unfold afterRelease
  split
  · rfl
  · rfl
  · exact carrier.window_clearCursor scene

theorem exchange_clearCursor :
    Desktop.Exchange none none scene.desktop (carrier.clearCursor scene).2.desktop := by
  unfold clearCursor
  split
  · exact .of_same (fun _ => rfl) rfl
  · exact .refl _

theorem exchange_dropWindow :
    Desktop.Exchange carrier.window none scene.desktop
      (carrier.dropWindow scene node).2.desktop := by
  unfold dropWindow
  split
  · next bare =>
      rw [bare]
      exact .refl _
  · next window owned =>
      rw [owned]
      exact scene.desktop.exchange_destroyWindow window

theorem exchange_beforeDock :
    Desktop.Exchange carrier.window none scene.desktop
      (carrier.beforeDock scene node).2.desktop := by
  have dropped := exchange_dropWindow (carrier.clearCursor scene).1
    (carrier.clearCursor scene).2 node
  rw [window_clearCursor] at dropped
  exact (carrier.exchange_clearCursor scene).prepare dropped

theorem exchange_release :
    Desktop.Exchange carrier.window none scene.desktop
      (carrier.release scene node).2.desktop := by
  unfold release
  split
  · exact exchange_beforeDock { carrier with means := .compositor false } scene node
  · exact carrier.exchange_beforeDock scene node

theorem exchange_afterRelease :
    Desktop.Exchange none none scene.desktop (carrier.afterRelease scene).2.desktop := by
  unfold afterRelease
  split
  · exact .refl _
  · exact .refl _
  · exact carrier.exchange_clearCursor scene

theorem exchange_showCursor (grab : Point) :
    Desktop.Exchange none none scene.desktop
      (showCursor scene settings node grab).1.desktop := by
  unfold showCursor
  split
  · exact .refl _
  · next image _ =>
      have shown := scene.desktop.exchange_setDragCursor image
      split
      · next same =>
          rw [same] at shown
          exact shown
      · next same =>
          rw [same] at shown
          exact shown

theorem exchange_handle (press : Option Press) (inFlight : Bool) (event : Event) :
    Desktop.Exchange none none scene.desktop
      (carrier.handle scene press inFlight event).1.desktop := by
  have followed (root : Point) :
      Desktop.Exchange none none scene.desktop (carrier.follow scene root).desktop := by
    unfold follow
    split
    · exact scene.desktop.exchange_moveWindow _ _
    · exact .refl _
  unfold handle
  split
  · dsimp only
    split
    · exact followed _
    · exact .refl _
  · exact .refl _

theorem exchange_startInteractiveResize (edge : ResizeEdge) :
    Desktop.Exchange none none scene.desktop
      (carrier.startInteractiveResize scene edge).1.desktop := by
  unfold startInteractiveResize
  split
  · exact .refl _
  · split
    · exact .refl _
    · exact scene.desktop.exchange_startInteractiveResize _ edge

end Carrier

namespace Hosts

variable {survey : Survey} {lodgings : Lodgings}
  {moorings : NodeId → Option Mooring} {node : NodeId} {docked : Bool}
  {parent : Option NodeId} {carrier : Carrier} {scene : Scene}

theorem quiet {after : Scene}
    (hosts : Hosts survey lodgings moorings node docked parent carrier.window scene)
    (tree_eq : after.tree = scene.tree)
    (exchange : Desktop.Exchange none none scene.desktop after.desktop) :
    Hosts survey lodgings moorings node docked parent carrier.window after := by
  obtain ⟨tree, desktop⟩ := after
  cases tree_eq
  exact hosts.request exchange

theorem dropWindow
    (hosts : Hosts survey lodgings moorings node docked parent carrier.window scene) :
    Hosts survey lodgings moorings node docked parent none (carrier.dropWindow scene node).2 := by
  unfold Carrier.dropWindow
  cases owned : carrier.window with
  | none =>
      rw [owned] at hosts
      exact hosts
  | some window =>
      rw [owned] at hosts
      exact hosts.closeWindow

theorem takeWindow (hosts : Hosts survey lodgings moorings node docked none none scene)
    (idle : carrier.window = none) (settings : Settings) (position : Option Point) :
    Hosts survey lodgings moorings node docked none
      (carrier.takeWindow scene settings node position).carrier.window
      (carrier.takeWindow scene settings node position).scene := by
  have opened := hosts.openWindow settings.windowTitle position
  unfold Carrier.takeWindow
  split
  · next same =>
      rw [same] at opened
      rw [idle]
      exact opened
  · next same =>
      rw [same] at opened
      exact opened

theorem undock (hosts : Hosts survey lodgings moorings node docked none carrier.window scene)
    (settings : Settings) (root grab : Point) :
    Hosts survey lodgings moorings node docked none
      (carrier.undock scene settings node root grab).carrier.window
      (carrier.undock scene settings node root grab).scene := by
  unfold Carrier.undock
  split
  · have dropped := @dropWindow survey lodgings moorings node docked none
      { carrier with means := .generic grab } scene hosts
    exact dropped.takeWindow (Carrier.window_dropWindow _ scene node) settings _
  · have taken := hosts.dropWindow.takeWindow (carrier.window_dropWindow scene node)
      settings none
    dsimp only
    generalize (carrier.dropWindow scene node).1.takeWindow (carrier.dropWindow scene node).2
      settings node none = outcome at taken ⊢
    split
    · exact taken
    · next window _ =>
        have started := outcome.scene.desktop.exchange_startSystemDrag window
          ⟨settings.markerMime, Carrier.markerData node⟩
        split
        · next same =>
            rw [same] at started
            exact taken.request started
        · next same =>
            rw [same] at started
            exact taken.request started
  · have dropped := hosts.dropWindow
    rw [← carrier.window_dropWindow scene node] at dropped
    exact dropped.quiet (Carrier.tree_showCursor _ settings node grab)
      (Carrier.exchange_showCursor _ settings node grab)

theorem beforeDock
    (hosts : Hosts survey lodgings moorings node docked parent carrier.window scene) :
    Hosts survey lodgings moorings node docked parent none (carrier.beforeDock scene node).2 := by
  have cleared := hosts.quiet (carrier.tree_clearCursor scene)
    (carrier.exchange_clearCursor scene)
  rw [← carrier.window_clearCursor scene] at cleared
  exact cleared.dropWindow

theorem afterRelease
    (hosts : Hosts survey lodgings moorings node docked parent carrier.window scene) :
    Hosts survey lodgings moorings node docked parent carrier.window
      (carrier.afterRelease scene).2 :=
  hosts.quiet (carrier.tree_afterRelease scene) (carrier.exchange_afterRelease scene)

theorem settle (hosts : Hosts survey lodgings moorings node docked none carrier.window scene)
    (settings : Settings) (root : Point) :
    Hosts survey lodgings moorings node docked none
      (carrier.settle scene settings node root).carrier.window
      (carrier.settle scene settings node root).scene := by
  unfold Carrier.settle
  split
  · exact hosts
  · next homeless =>
      -- a window of its own would show the dockable
      have idle : carrier.window = none := by
        rw [Carrier.ownsWindowOf, hosts.window?_eq] at homeless
        simpa using homeless
      rw [idle] at hosts
      exact hosts.takeWindow idle settings _

end Hosts

namespace House

variable {survey : Survey} {adrift : NodeId → Prop} {lodgings : Lodgings}
  {scene : Scene} {node : NodeId} {carrier : Carrier}
  (house : House survey adrift lodgings scene)
  (owned : lodgings.window? node = carrier.window)
  (gone : scene.tree.contains node = false)
include house owned gone

theorem dropWindow :
    House survey adrift (Function.update lodgings node none)
      (carrier.dropWindow scene node).2 := by
  unfold Carrier.dropWindow
  cases window_eq : carrier.window with
  | none =>
      rw [window_eq] at owned
      refine house.exchange ?_ house.wellFormed (fun _ _ => rfl) (fun lodged => nomatch lodged)
      rw [owned]
      exact .refl _
  | some window =>
      rw [window_eq] at owned
      have hidden : ¬ scene.tree.window? node = some window := by
        rw [Tree.window?_of_not_contains gone]
        exact (Option.some_ne_none window).symm
      have tree_eq : (scene.closeWindow node window).tree = scene.tree := if_neg hidden
      refine house.exchange ?_ ?_ ?_ (fun lodged => nomatch lodged)
      · rw [owned]
        exact scene.desktop.exchange_destroyWindow window
      · rw [tree_eq]
        exact house.wellFormed
      · intro other _
        rw [tree_eq]

theorem release :
    House survey adrift (Function.update lodgings node none)
      (carrier.release scene node).2 := by
  have releases (carrier : Carrier) (owned : lodgings.window? node = carrier.window) :
      House survey adrift (Function.update lodgings node none)
        ((carrier.clearCursor scene).1.dropWindow (carrier.clearCursor scene).2 node).2 := by
    have tree_eq := carrier.tree_clearCursor scene
    refine dropWindow ?_ ?_ ?_
    · have cleared := house.request (carrier.exchange_clearCursor scene)
      rw [← tree_eq] at cleared
      exact cleared
    · rw [Carrier.window_clearCursor]
      exact owned
    · rw [tree_eq]
      exact gone
  unfold Carrier.release
  split
  · exact releases { carrier with means := .compositor false } owned
  · exact releases carrier owned

end House
end Docking

import Docking.Proofs.Session.Deed
import Docking.Proofs.Window.Exchange

namespace Docking

/-! Docking asks nothing of the windowing system that an application could not ask for. What
every command keeps is therefore kept by every run. -/

namespace Desktop

def Driven (before after : Desktop) : Prop :=
  ∃ commands : List Command, after = commands.foldl obey before

namespace Driven

variable {before middle after : Desktop}

theorem refl (desktop : Desktop) : Driven desktop desktop :=
  ⟨[], rfl⟩

theorem obey (desktop : Desktop) (command : Command) : Driven desktop (desktop.obey command) :=
  ⟨[command], rfl⟩

theorem trans (first : Driven before middle) (second : Driven middle after) :
    Driven before after := by
  obtain ⟨early, rfl⟩ := first
  obtain ⟨late, rfl⟩ := second
  exact ⟨early ++ late, List.foldl_append.symm⟩

theorem numbered (driven : Driven before after) (numbered : before.Numbered) :
    after.Numbered := by
  obtain ⟨commands, rfl⟩ := driven
  induction commands generalizing before with
  | nil => exact numbered
  | cons command rest induction =>
      obtain ⟨old, new, exchange, _⟩ := before.exchange_obey command
      exact induction (exchange.numbered numbered)

end Driven

def Command.movesWindow : Command → Bool
  | .moveWindow .. => true
  | _ => false

def DrivenStill (before after : Desktop) : Prop :=
  ∃ commands : List Command, (∀ command ∈ commands, command.movesWindow = false) ∧
    after = commands.foldl obey before

/-- The moves of windows asked for so far, oldest first, whether they were made or not. -/
def moves (desktop : Desktop) : List (WindowId × Point) :=
  desktop.requests.filterMap fun
    | .moveWindow window position => some (window, position)
    | _ => none

theorem moves_obey (desktop : Desktop) {command : Command} (still : command.movesWindow = false) :
    (desktop.obey command).moves = desktop.moves := by
  cases command with
  | moveWindow window position => cases still
  | destroyWindow window =>
      simp only [obey, destroyWindow]
      split <;> rfl
  | createWindow descriptor =>
      simp only [obey, createWindow, attempt]
      cases desktop.faults (.createWindow descriptor) desktop.requests with
      | some report => simp [moves]
      | none => simp [moves, record]
  | startSystemDrag window payload =>
      simp only [obey, startSystemDrag, attempt]
      cases desktop.faults (.startSystemDrag window payload) desktop.requests with
      | some report => simp [moves]
      | none =>
          dsimp only
          split
          · simp [moves]
          · split
            · simp [moves]
            · simp [moves, record]
  | setDragCursor image =>
      simp only [obey, setDragCursor, attempt]
      cases desktop.faults (.setDragCursor image) desktop.requests with
      | some report => simp [moves]
      | none =>
          dsimp only
          split
          · simp [moves]
          · simp [moves, record]
  | startInteractiveResize window edge =>
      simp only [obey, startInteractiveResize, attempt]
      cases desktop.faults (.startInteractiveResize window edge) desktop.requests with
      | some report => simp [moves]
      | none =>
          dsimp only
          split
          · simp [moves]
          · split
            · simp [moves]
            · simp [moves, record]
  | _ => rfl

namespace DrivenStill

variable {before middle after : Desktop}

theorem refl (desktop : Desktop) : DrivenStill desktop desktop :=
  ⟨[], List.forall_mem_nil _, rfl⟩

theorem obey (desktop : Desktop) (command : Command)
    (still : command.movesWindow = false) : DrivenStill desktop (desktop.obey command) :=
  ⟨[command], by simpa using still, rfl⟩

theorem trans (first : DrivenStill before middle) (second : DrivenStill middle after) :
    DrivenStill before after := by
  obtain ⟨early, earlyStill, rfl⟩ := first
  obtain ⟨late, lateStill, rfl⟩ := second
  exact ⟨early ++ late, List.forall_mem_append.mpr ⟨earlyStill, lateStill⟩,
    List.foldl_append.symm⟩

theorem driven (still : DrivenStill before after) : Driven before after :=
  let ⟨commands, _, same⟩ := still
  ⟨commands, same⟩

theorem moves_eq (still : DrivenStill before after) : after.moves = before.moves := by
  obtain ⟨commands, still, rfl⟩ := still
  induction commands generalizing before with
  | nil => rfl
  | cons command rest induction =>
      obtain ⟨first, rest⟩ := List.forall_mem_cons.mp still
      exact (induction rest).trans (before.moves_obey first)

end DrivenStill
end Desktop

open Desktop (Driven DrivenStill)

theorem Scene.still_openWindow (scene : Scene) (title : String) (node : NodeId)
    (position : Option Point) :
    DrivenStill scene.desktop (scene.openWindow title node position).1.desktop := by
  have created := DrivenStill.obey scene.desktop (.createWindow (.borderless title position
    (.ofPoint ((scene.tree.layout? node).getD .zero).extent))) rfl
  unfold Scene.openWindow
  dsimp only [Desktop.obey] at created ⊢
  split
  · next same =>
      rw [same] at created
      exact created
  · next same =>
      rw [same] at created
      exact created

namespace Carrier

variable (carrier : Carrier) (scene : Scene) (settings : Settings) (node : NodeId)

theorem still_dropWindow : DrivenStill scene.desktop (carrier.dropWindow scene node).2.desktop := by
  unfold dropWindow
  split
  · exact .refl _
  · exact .obey scene.desktop (.destroyWindow _) rfl

theorem still_clearCursor : DrivenStill scene.desktop (carrier.clearCursor scene).2.desktop := by
  unfold clearCursor
  split
  · exact .obey scene.desktop .clearDragCursor rfl
  · exact .refl _

theorem still_takeWindow (position : Option Point) :
    DrivenStill scene.desktop (carrier.takeWindow scene settings node position).scene.desktop := by
  have opened := scene.still_openWindow settings.windowTitle node position
  unfold takeWindow
  split
  · next same =>
      rw [same] at opened
      exact opened
  · next same =>
      rw [same] at opened
      exact opened

theorem still_showCursor (grab : Point) :
    DrivenStill scene.desktop (showCursor scene settings node grab).1.desktop := by
  unfold showCursor
  split
  · exact .refl _
  · next image _ =>
      have shown := DrivenStill.obey scene.desktop (.setDragCursor image) rfl
      dsimp only [Desktop.obey] at shown
      split
      · next same =>
          rw [same] at shown
          exact shown
      · next same =>
          rw [same] at shown
          exact shown

theorem still_undock (root grab : Point) :
    DrivenStill scene.desktop (carrier.undock scene settings node root grab).scene.desktop := by
  unfold undock
  split
  · exact (still_dropWindow _ scene node).trans (still_takeWindow _ _ settings node _)
  · have taken := (carrier.still_dropWindow scene node).trans
      ((carrier.dropWindow scene node).1.still_takeWindow
        (carrier.dropWindow scene node).2 settings node none)
    dsimp only
    split
    · exact taken
    · next window _ =>
        have started := taken.trans (.obey _ (.startSystemDrag window
          ⟨settings.markerMime, markerData node⟩) rfl)
        dsimp only [Desktop.obey] at started
        split
        · next same =>
            rw [same] at started
            exact started
        · next same =>
            rw [same] at started
            exact started
  · exact (carrier.still_dropWindow scene node).trans (still_showCursor _ settings node grab)

theorem still_beforeDock : DrivenStill scene.desktop (carrier.beforeDock scene node).2.desktop :=
  (carrier.still_clearCursor scene).trans (still_dropWindow _ _ node)

theorem still_afterRelease : DrivenStill scene.desktop (carrier.afterRelease scene).2.desktop := by
  unfold afterRelease
  split
  · exact .refl _
  · exact .refl _
  · exact carrier.still_clearCursor scene

theorem still_settle (root : Point) :
    DrivenStill scene.desktop (carrier.settle scene settings node root).scene.desktop := by
  unfold settle
  split
  · exact .refl _
  · exact carrier.still_takeWindow scene settings node _

theorem still_release : DrivenStill scene.desktop (carrier.release scene node).2.desktop := by
  have dropped (released : Carrier) := (released.still_clearCursor scene).trans
    ((released.clearCursor scene).1.still_dropWindow (released.clearCursor scene).2 node)
  exact dropped _

theorem driven_follow (root : Point) :
    Driven scene.desktop (carrier.follow scene root).desktop := by
  unfold follow
  split
  · exact .obey scene.desktop (.moveWindow _ _)
  · exact .refl _

theorem still_startInteractiveResize (edge : ResizeEdge) :
    DrivenStill scene.desktop (carrier.startInteractiveResize scene edge).1.desktop := by
  unfold startInteractiveResize
  split
  · exact .refl _
  · split
    · exact .refl _
    · exact .obey scene.desktop (.startInteractiveResize _ edge) rfl

end Carrier

namespace Session

variable {session after : Session} {node : NodeId}

theorem still_withCarrier {action : Carrier → Scene → Carrier × Scene}
    (still : ∀ carrier, DrivenStill session.desktop (action carrier session.toScene).2.desktop) :
    DrivenStill session.desktop (session.withCarrier node action).desktop := by
  unfold withCarrier
  split
  · exact .refl _
  · exact still _

theorem still_tryCarrier
    {action : Carrier → Scene → Carrier.Outcome (Except DesktopError Unit)}
    (still : ∀ carrier, DrivenStill session.desktop (action carrier session.toScene).scene.desktop) :
    DrivenStill session.desktop (session.tryCarrier node action).1.desktop := by
  unfold tryCarrier
  split
  · exact .refl _
  · exact still _

variable (session node)

theorem still_settleCarrier (root : Point) :
    DrivenStill session.desktop (session.settleCarrier node root).desktop :=
  still_tryCarrier fun carrier =>
    carrier.still_settle session.toScene session.settings node root

theorem still_beforeDock :
    DrivenStill session.desktop
      (session.withCarrier node fun carrier scene => carrier.beforeDock scene node).desktop :=
  still_withCarrier fun carrier => carrier.still_beforeDock session.toScene node

theorem still_afterRelease :
    DrivenStill session.desktop (session.withCarrier node Carrier.afterRelease).desktop :=
  still_withCarrier fun carrier => carrier.still_afterRelease session.toScene

theorem still_forgetDockable (destroyed : List NodeId) :
    DrivenStill session.desktop (forgetDockable destroyed session node).desktop := by
  rcases session.forgetDockable_cases node destroyed with ⟨_, same⟩ | ⟨dockable, _, _, _, same⟩
  · rw [same]
    exact .refl _
  · rw [same]
    exact dockable.carrier.still_release session.toScene node

theorem still_forgetTargets (destroyed : List NodeId) :
    DrivenStill session.desktop (forgetTargets destroyed session node).desktop := by
  unfold forgetTargets
  split
  · exact .refl _
  · dsimp only
    split
    · rw [desktop_enterPhase]
      exact .refl _
    · exact .refl _

theorem still_syncDestroyed : DrivenStill session.desktop session.syncDestroyed.desktop := by
  refine syncDestroyed_induction (motive := fun current => DrivenStill session.desktop current.desktop)
    (.refl _) ?_ ?_
  · exact fun current node earlier => earlier.trans (still_forgetDockable current node _)
  · exact fun current node earlier => earlier.trans (still_forgetTargets current node _)

theorem still_settleUndocked (root : Point) :
    DrivenStill session.desktop (session.settleUndocked node root).desktop := by
  have left : DrivenStill session.desktop (session.leaveActiveTarget node).desktop := by
    unfold leaveActiveTarget
    split <;> exact .refl _
  have settled := (left.trans (still_settleCarrier _ node root)).trans
    (still_afterRelease _ node)
  unfold settleUndocked
  dsimp only
  split
  · rw [desktop_enterPhase]
    exact settled
  · rw [desktop_enterPhase]
    exact settled

theorem still_releaseUndocked (root : Point) :
    DrivenStill session.desktop (session.releaseUndocked node root).desktop := by
  have settled := session.still_settleUndocked node root
  unfold releaseUndocked
  generalize session.settleUndocked node root = rested at settled ⊢
  have asked := settled.trans (.obey _ (.confirm rested.settings.confirmTitle
    rested.settings.confirmMessage) rfl)
  dsimp only
  split
  · split
    · exact asked
    · exact asked.trans (still_syncDestroyed _)
  · exact settled

theorem still_undoTearOut (layout : Rect) (former : Option (NodeId × Nat)) (root : Point) :
    DrivenStill session.desktop (session.undoTearOut node layout former root).desktop := by
  have grounded := session.still_beforeDock node
  unfold undoTearOut
  dsimp only
  split
  · exact grounded
  · rw [desktop_enterPhase]
    exact (grounded.trans (still_settleCarrier _ node root)).trans (still_afterRelease _ node)

theorem still_beginDrag (tearOut : TearOut) :
    DrivenStill session.desktop (session.beginDrag node tearOut).1.desktop := by
  have flown : DrivenStill session.desktop (session.attemptFlight node tearOut).1.desktop :=
    @still_tryCarrier { session with tree := (session.tree.detach node).1 } node _
      fun carrier => carrier.still_undock _ session.settings node _ _
  have begun := session.dragBegun_beginDrag node tearOut
  generalize session.beginDrag node tearOut = outcome at begun ⊢
  cases begun with
  | declined hindered => exact .refl _
  | unknown alone missing => exact .refl _
  | failed alone placed found tried =>
      rw [tried] at flown
      exact flown.trans (still_undoTearOut _ node _ _ _)
  | launched alone found tried =>
      rw [tried] at flown
      unfold launch
      rw [desktop_enterPhase]
      exact flown

theorem still_dock (target : NodeId) (root : Point) (hooks : Hooks) :
    DrivenStill session.desktop (session.dock target node root hooks).session.desktop := by
  have grounded := session.still_beforeDock node
  have turned (current : Session) :
      DrivenStill current.desktop (current.turnAway target node root hooks).1.desktop :=
    still_releaseUndocked ((current.giveFeedback hooks target false).1.update node
      fun dockable => { dockable with activeTarget := none }) node root
  have landed (current : Session) : DrivenStill current.desktop (current.land node).desktop := by
    unfold land
    refine .trans ?_ (still_syncDestroyed _)
    rw [desktop_enterPhase]
    exact current.still_afterRelease node
  unfold dock
  generalize session.withCarrier node (fun carrier scene => carrier.beforeDock scene node)
    = released at grounded ⊢
  dsimp only
  split
  · split
    · exact grounded.trans (turned { released with
        tree := (hooks.runInsert released.tree target node).1 })
    · exact grounded.trans (landed (giveFeedback { released with
        tree := (hooks.runInsert released.tree target node).1 } hooks target false).1)
  · exact turned session

theorem still_build (plan : DockablePlan) :
    DrivenStill session.desktop (session.build plan).1.desktop := by
  have placed (current : Session) (body : NodeId) :
      DrivenStill current.desktop (current.giveFirstPlace plan body).desktop := by
    unfold giveFirstPlace
    split
    · exact .refl _
    · exact current.still_settleCarrier body _
  unfold build repaint
  dsimp only
  split
  · exact placed _ _
  · exact placed _ _

variable {session node}

theorem still_act (act : Act session after) : DrivenStill session.desktop after.desktop := by
  cases act with
  | arrange evolves => exact .refl _
  | post outbox => exact .refl _
  | calm node => exact .refl _
  | @resize _ dockable found edge =>
      exact dockable.carrier.still_startInteractiveResize session.toScene edge
  | ask => exact .obey session.desktop (.confirm _ _) rfl
  | @aim node dockable found flying target =>
      rw [desktop_enterPhase]
      exact .refl _
  | @settle node dockable found flying root => exact session.still_settleUndocked node root
  | @fail node dockable found resting tearOut failed error begun =>
      have still := session.still_beginDrag node tearOut
      rw [begun] at still
      exact still
  | @dock node dockable found flying target root hooks =>
      exact session.still_dock node target root hooks
  | syncDestroyed => exact session.still_syncDestroyed
  | build fresh plan => exact session.still_build plan

theorem still_acts (acts : Acts session after) : DrivenStill session.desktop after.desktop := by
  induction acts with
  | refl => exact .refl _
  | tail _ act induction => exact induction.trans (still_act act)

theorem Launches.still {root : Point} (launches : session.Launches node root after) :
    DrivenStill session.desktop after.desktop := by
  obtain @⟨dockable, rect, tree, asked, flying, found, resting, shown, grab, evolves, begun, outbox⟩ :=
    launches
  have still := still_beginDrag { session with tree } node asked
  rw [begun] at still
  exact still

theorem driven_deed (deed : Deed session after) : Driven session.desktop after.desktop := by
  cases deed with
  | arrange evolves => exact .refl _
  | post outbox => exact .refl _
  | press node press => exact .refl _
  | @follow _ dockable found flying root =>
      exact dockable.carrier.driven_follow session.toScene root
  | resize found edge => exact (still_act (.resize found edge)).driven
  | ask => exact (still_act .ask).driven
  | aim found flying target => exact (still_act (.aim found flying target)).driven
  | settle found flying root => exact (still_act (.settle found flying root)).driven
  | @beginDrag node dockable found resting tearOut =>
      exact (session.still_beginDrag node tearOut).driven
  | dock found flying target root hooks =>
      exact (still_act (.dock found flying target root hooks)).driven
  | syncDestroyed => exact (still_act .syncDestroyed).driven
  | build fresh plan => exact (still_act (.build fresh plan)).driven

theorem driven_deeds (deeds : Deeds session after) : Driven session.desktop after.desktop := by
  induction deeds with
  | refl => exact .refl _
  | tail _ deed induction => exact induction.trans (driven_deed deed)

theorem driven_perform (orderly : session.Orderly) (operation : Operation) :
    Driven session.desktop (session.perform operation).desktop := by
  by_cases inhouse : ∀ command, operation ≠ .command command
  · exact driven_deeds (deeds_perform orderly inhouse)
  · push Not at inhouse
    obtain ⟨command, rfl⟩ := inhouse
    exact .obey session.desktop command

theorem driven_run (desktop : Desktop) (settings : Settings) (operations : List Operation) :
    Driven desktop ((start desktop settings).run operations).desktop := by
  have both : ((start desktop settings).run operations).Orderly ∧
      Driven desktop ((start desktop settings).run operations).desktop :=
    run_induction (motive := fun session => session.Orderly ∧ Driven desktop session.desktop)
      ⟨.start desktop settings, .refl desktop⟩
      (fun _ operation both =>
        ⟨both.1.perform operation, both.2.trans (driven_perform both.1 operation)⟩)
      operations
  exact both.2

end Session
end Docking

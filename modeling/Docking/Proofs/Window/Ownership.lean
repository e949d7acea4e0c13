import Docking.Proofs.Session.CatchUp
import Docking.Proofs.Window.StrongDrag

namespace Docking

/-! Who owns a window. A carrier gets a window only by opening it, so no two dockables ever own
the same one, whatever the application does to the tree and to the windows. -/

namespace Desktop

theorem Driven.nextNumber_le {before after : Desktop} (driven : Driven before after) :
    before.nextNumber ≤ after.nextNumber := by
  obtain ⟨commands, rfl⟩ := driven
  induction commands generalizing before with
  | nil => exact Nat.le_refl _
  | cons command rest induction =>
      obtain ⟨_, _, exchange, _⟩ := before.exchange_obey command
      exact Nat.le_trans exchange.nextNumber_le induction

end Desktop

namespace Carrier

/-- What a carrier owns it owned before, or it was opened meanwhile. -/
structure Acquires (carrier later : Carrier) (before after : Desktop) : Prop where
  nextNumber_le : before.nextNumber ≤ after.nextNumber
  window : ∀ window, later.window = some window → carrier.window = some window ∨
    before.nextNumber ≤ window.number ∧ window.number < after.nextNumber

namespace Acquires

variable {carrier middle later : Carrier} {before between after : Desktop}

theorem of_window_eq (driven : Desktop.Driven before after)
    (same : later.window = carrier.window) : Acquires carrier later before after :=
  ⟨driven.nextNumber_le, fun _ owned => .inl (same.symm.trans owned)⟩

theorem of_window_eq_none (driven : Desktop.Driven before after) (bare : later.window = none) :
    Acquires carrier later before after :=
  ⟨driven.nextNumber_le, fun _ owned => nomatch bare.symm.trans owned⟩

theorem trans (first : Acquires carrier middle before between)
    (second : Acquires middle later between after) : Acquires carrier later before after where
  nextNumber_le := Nat.le_trans first.nextNumber_le second.nextNumber_le
  window window owned := by
    rcases second.window window owned with earlier | ⟨above, below⟩
    · exact (first.window window earlier).imp_right fun ⟨above, below⟩ =>
        ⟨above, Nat.lt_of_lt_of_le below second.nextNumber_le⟩
    · exact .inr ⟨Nat.le_trans first.nextNumber_le above, below⟩

end Acquires

variable (carrier : Carrier) (scene : Scene) (settings : Settings) (node : NodeId)

theorem acquires_dropWindow :
    Acquires carrier (carrier.dropWindow scene node).1 scene.desktop
      (carrier.dropWindow scene node).2.desktop :=
  .of_window_eq_none (carrier.still_dropWindow scene node).driven (carrier.window_dropWindow scene node)

theorem acquires_takeWindow (position : Option Point) :
    Acquires carrier (carrier.takeWindow scene settings node position).carrier scene.desktop
      (carrier.takeWindow scene settings node position).scene.desktop := by
  have opened := scene.exchange_openWindow settings.windowTitle node position
  unfold takeWindow
  generalize scene.openWindow settings.windowTitle node position = outcome at opened ⊢
  obtain ⟨left, result⟩ := outcome
  cases result with
  | error report => exact ⟨opened.nextNumber_le, fun _ => .inl⟩
  | ok window =>
      refine ⟨opened.nextNumber_le, fun other owned => .inr (opened.fresh other ?_)⟩
      exact owned

theorem acquires_undock (root grab : Point) :
    Acquires carrier (carrier.undock scene settings node root grab).carrier scene.desktop
      (carrier.undock scene settings node root grab).scene.desktop := by
  have driven := (carrier.still_undock scene settings node root grab).driven
  unfold undock at driven ⊢
  split
  · have dropped := acquires_dropWindow { carrier with means := .generic grab } scene node
    have freed : Acquires carrier _ _ _ := ⟨dropped.nextNumber_le, dropped.window⟩
    exact freed.trans (acquires_takeWindow _ _ settings node _)
  · have taken := (carrier.acquires_dropWindow scene node).trans
      (acquires_takeWindow _ _ settings node none)
    dsimp only
    split
    · exact taken
    · next window _ =>
        have started := Desktop.exchange_startSystemDrag
          ((carrier.dropWindow scene node).1.takeWindow (carrier.dropWindow scene node).2 settings
            node none).scene.desktop window ⟨settings.markerMime, markerData node⟩
        split
        · next same =>
            rw [same] at started
            exact taken.trans ⟨started.nextNumber_le, fun _ => .inl⟩
        · next same =>
            rw [same] at started
            exact taken.trans ⟨started.nextNumber_le, fun _ => .inl⟩
  · next means =>
    simp only [means] at driven
    exact .of_window_eq_none driven (carrier.window_dropWindow scene node)

theorem acquires_beforeDock :
    Acquires carrier (carrier.beforeDock scene node).1 scene.desktop
      (carrier.beforeDock scene node).2.desktop :=
  .of_window_eq_none (carrier.still_beforeDock scene node).driven (carrier.window_beforeDock scene node)

theorem acquires_afterRelease :
    Acquires carrier (carrier.afterRelease scene).1 scene.desktop
      (carrier.afterRelease scene).2.desktop :=
  .of_window_eq (carrier.still_afterRelease scene).driven (carrier.window_afterRelease scene)

theorem acquires_settle (root : Point) :
    Acquires carrier (carrier.settle scene settings node root).carrier scene.desktop
      (carrier.settle scene settings node root).scene.desktop := by
  unfold settle
  split
  · exact .of_window_eq (.refl _) rfl
  · exact carrier.acquires_takeWindow scene settings node _

end Carrier

namespace Session

variable {session : Session} {node : NodeId}

def owned? (session : Session) (node : NodeId) : Option WindowId :=
  (session.dockable? node).bind Dockable.window

theorem owned?_of_dockable? {dockable : Dockable}
    (found : session.dockable? node = some dockable) : session.owned? node = dockable.window := by
  rw [owned?, found]
  rfl

/-- No window is owned twice, and none that has yet to be opened. -/
structure Exclusive (session : Session) : Prop where
  number_lt : ∀ node window, session.owned? node = some window →
    window.number < session.desktop.nextNumber
  distinct : ∀ first second window, session.owned? first = some window →
    session.owned? second = some window → first = second

theorem exclusive_start (desktop : Desktop) (settings : Settings) :
    (start desktop settings).Exclusive :=
  ⟨fun _ _ owned => (nomatch owned), fun _ _ _ owned _ => (nomatch owned)⟩

/-- What `node` owns it owned before, or it was opened meanwhile. No other dockable got a
window. -/
structure Reowns (node : NodeId) (before after : Session) : Prop where
  nextNumber_le : before.desktop.nextNumber ≤ after.desktop.nextNumber
  own : ∀ window, after.owned? node = some window → before.owned? node = some window ∨
    before.desktop.nextNumber ≤ window.number ∧ window.number < after.desktop.nextNumber
  others : ∀ other window, other ≠ node → after.owned? other = some window →
    before.owned? other = some window

namespace Reowns

variable {before middle after : Session}

theorem of_owned? (driven : Desktop.Driven before.desktop after.desktop)
    (kept : ∀ other window, after.owned? other = some window →
      before.owned? other = some window) : Reowns node before after :=
  ⟨driven.nextNumber_le, fun window owned => .inl (kept node window owned),
    fun other window _ => kept other window⟩

theorem of_owned?_eq (driven : Desktop.Driven before.desktop after.desktop)
    (same : ∀ other, after.owned? other = before.owned? other) : Reowns node before after :=
  .of_owned? driven fun other _ owned => (same other).symm.trans owned

theorem trans (first : Reowns node before middle) (second : Reowns node middle after) :
    Reowns node before after where
  nextNumber_le := Nat.le_trans first.nextNumber_le second.nextNumber_le
  own window owned := by
    rcases second.own window owned with earlier | ⟨above, below⟩
    · exact (first.own window earlier).imp_right fun ⟨above, below⟩ =>
        ⟨above, Nat.lt_of_lt_of_le below second.nextNumber_le⟩
    · exact .inr ⟨Nat.le_trans first.nextNumber_le above, below⟩
  others other window apart owned :=
    first.others other window apart (second.others other window apart owned)

theorem exclusive (reowns : Reowns node before after) (exclusive : before.Exclusive) :
    after.Exclusive := by
  have apart (other : NodeId) (window : WindowId) (different : other ≠ node)
      (owned : after.owned? other = some window) : after.owned? node ≠ some window := by
    intro twice
    have earlier := reowns.others other window different owned
    rcases reowns.own window twice with again | ⟨above, _⟩
    · exact different (exclusive.distinct other node window earlier again)
    · exact Nat.not_lt_of_le above (exclusive.number_lt other window earlier)
  refine ⟨fun other window owned => ?_, fun first second window owns claims => ?_⟩
  · by_cases here : other = node
    · rw [here] at owned
      rcases reowns.own window owned with earlier | ⟨_, below⟩
      · exact Nat.lt_of_lt_of_le (exclusive.number_lt node window earlier) reowns.nextNumber_le
      · exact below
    · exact Nat.lt_of_lt_of_le
        (exclusive.number_lt other window (reowns.others other window here owned))
        reowns.nextNumber_le
  · by_cases firstHere : first = node
    · by_cases secondHere : second = node
      · rw [firstHere, secondHere]
      · exact absurd (firstHere ▸ owns) (apart second window secondHere claims)
    · by_cases secondHere : second = node
      · exact absurd (secondHere ▸ claims) (apart first window firstHere owns)
      · exact exclusive.distinct first second window (reowns.others first window firstHere owns)
          (reowns.others second window secondHere claims)

end Reowns

section Ownership

variable (session : Session) (node : NodeId)

theorem owned?_congr {after : Session} (same : after.dockables = session.dockables)
    (other : NodeId) : after.owned? other = session.owned? other := by
  rw [owned?, dockable?, same, owned?, dockable?]

theorem owned?_update (change : Dockable → Dockable)
    (same : ∀ dockable, (change dockable).window = dockable.window) (other : NodeId) :
    (session.update node change).owned? other = session.owned? other := by
  rw [owned?, dockable?_update, owned?]
  split
  · next here =>
      rw [here]
      cases session.dockable? node with
      | none => rfl
      | some dockable => exact same dockable
  · rfl

theorem owned?_enterPhase (phase : Phase) (other : NodeId) :
    (session.enterPhase node phase).owned? other = session.owned? other := by
  unfold enterPhase
  rw [owned?_congr _ (dockables_repaint _ node), owned?_update]
  exact fun _ => rfl

theorem owned?_leaveActiveTarget (other : NodeId) :
    (session.leaveActiveTarget node).owned? other = session.owned? other := by
  unfold leaveActiveTarget
  split
  · rfl
  · exact session.owned?_update node (fun dockable => { dockable with activeTarget := none })
      (fun _ => rfl) other

theorem owned?_syncDestroyed {other : NodeId} {window : WindowId}
    (owned : session.syncDestroyed.owned? other = some window) :
    session.owned? other = some window := by
  rw [owned?, dockable?_syncDestroyed] at owned
  split at owned
  · cases owned
  · rw [owned?]
    cases found : session.dockable? other with
    | none =>
        rw [found] at owned
        cases owned
    | some dockable =>
        rw [found] at owned
        exact owned

theorem reowns_syncDestroyed : Reowns node session session.syncDestroyed :=
  .of_owned? session.still_syncDestroyed.driven fun _ _ => session.owned?_syncDestroyed

theorem reowns_handOver {dockable : Dockable} (found : session.dockable? node = some dockable)
    {carrier : Carrier} {scene : Scene}
    (acquires : dockable.carrier.Acquires carrier session.desktop scene.desktop) :
    Reowns node session (session.handOver node carrier scene) where
  nextNumber_le := acquires.nextNumber_le
  own window owned := by
    rw [owned?, dockable?_handOver, if_pos rfl, found] at owned
    rw [owned?_of_dockable? found]
    exact acquires.window window owned
  others other window apart owned := by
    rwa [owned?, dockable?_handOver, if_neg apart] at owned

theorem reowns_withCarrier {action : Carrier → Scene → Carrier × Scene}
    (acquires : ∀ carrier : Carrier, carrier.Acquires (action carrier session.toScene).1
      session.desktop (action carrier session.toScene).2.desktop) :
    Reowns node session (session.withCarrier node action) := by
  cases found : session.dockable? node with
  | none =>
      unfold withCarrier
      rw [found]
      exact .of_owned?_eq (.refl _) fun _ => rfl
  | some dockable =>
      rw [withCarrier_eq_handOver found]
      exact reowns_handOver session node found (acquires dockable.carrier)

theorem reowns_tryCarrier
    {action : Carrier → Scene → Carrier.Outcome (Except DesktopError Unit)}
    (acquires : ∀ carrier : Carrier, carrier.Acquires (action carrier session.toScene).carrier
      session.desktop (action carrier session.toScene).scene.desktop) :
    Reowns node session (session.tryCarrier node action).1 := by
  unfold tryCarrier
  cases found : session.dockable? node with
  | none => exact .of_owned?_eq (.refl _) fun _ => rfl
  | some dockable => exact reowns_handOver session node found (acquires dockable.carrier)

theorem reowns_settleCarrier (root : Point) :
    Reowns node session (session.settleCarrier node root) :=
  session.reowns_tryCarrier node fun carrier =>
    carrier.acquires_settle session.toScene session.settings node root

theorem reowns_beforeDock :
    Reowns node session
      (session.withCarrier node fun carrier scene => carrier.beforeDock scene node) :=
  session.reowns_withCarrier node fun carrier => carrier.acquires_beforeDock session.toScene node

theorem reowns_afterRelease :
    Reowns node session (session.withCarrier node Carrier.afterRelease) :=
  session.reowns_withCarrier node fun carrier => carrier.acquires_afterRelease session.toScene

theorem reowns_enterPhase (phase : Phase) :
    Reowns node session (session.enterPhase node phase) :=
  .of_owned?_eq (desktop_enterPhase session node phase ▸ .refl _)
    (session.owned?_enterPhase node phase)

theorem reowns_comeToRest (root : Point) :
    Reowns node session
      (((session.settleCarrier node root).withCarrier node Carrier.afterRelease).enterPhase node
        .undocked) :=
  ((session.reowns_settleCarrier node root).trans (reowns_afterRelease _ node)).trans
    (reowns_enterPhase _ node .undocked)

theorem reowns_settleUndocked (root : Point) :
    Reowns node session (session.settleUndocked node root) := by
  have left : Reowns node session (session.leaveActiveTarget node) := by
    refine .of_owned?_eq ?_ (session.owned?_leaveActiveTarget node)
    unfold leaveActiveTarget
    split <;> exact .refl _
  have settled := left.trans ((reowns_settleCarrier _ node root).trans (reowns_afterRelease _ node))
  unfold settleUndocked
  generalize ((session.leaveActiveTarget node).settleCarrier node root).withCarrier node
    Carrier.afterRelease = released at settled ⊢
  have cleared : Reowns node released (released.update node fun dockable =>
      { dockable with originTarget := none }) :=
    .of_owned?_eq (.refl _) (released.owned?_update node _ fun _ => rfl)
  have rested := (settled.trans cleared).trans (reowns_enterPhase _ node .undocked)
  dsimp only
  split
  · exact ⟨rested.nextNumber_le, rested.own, rested.others⟩
  · exact rested

theorem reowns_releaseUndocked (root : Point) :
    Reowns node session (session.releaseUndocked node root) := by
  have settled := session.reowns_settleUndocked node root
  unfold releaseUndocked
  generalize session.settleUndocked node root = rested at settled ⊢
  have asked : Reowns node rested { rested with desktop := (rested.desktop.confirm
      rested.settings.confirmTitle rested.settings.confirmMessage).1 } :=
    .of_owned?_eq (.obey rested.desktop (.confirm _ _)) fun _ => rfl
  dsimp only
  split
  · split
    · exact settled.trans asked
    · exact (settled.trans asked).trans
        (.of_owned? (still_syncDestroyed _).driven fun other window => owned?_syncDestroyed _)
  · exact settled

theorem reowns_beginDrag (tearOut : TearOut) :
    Reowns node session (session.beginDrag node tearOut).1 := by
  have flown : Reowns node session (session.attemptFlight node tearOut).1 := by
    have freed : Reowns node session { session with tree := (session.tree.detach node).1 } :=
      .of_owned?_eq (.refl _) fun _ => rfl
    refine freed.trans (reowns_tryCarrier _ node fun carrier => ?_)
    exact carrier.acquires_undock _ session.settings node _ _
  have begun := session.dragBegun_beginDrag node tearOut
  generalize session.beginDrag node tearOut = outcome at begun ⊢
  cases begun with
  | declined hindered => exact .of_owned?_eq (.refl _) fun _ => rfl
  | unknown alone missing => exact .of_owned?_eq (.refl _) fun _ => rfl
  | @failed _ attempted _ layout alone placed _ tried =>
      rw [tried] at flown
      have grounded := flown.trans (attempted.reowns_beforeDock node)
      unfold undoTearOut
      dsimp only
      split
      · exact ⟨grounded.nextNumber_le, grounded.own, grounded.others⟩
      · exact grounded.trans (reowns_comeToRest _ node tearOut.root)
  | @launched _ attempted alone _ tried =>
      rw [tried] at flown
      have cleared : Reowns node attempted (attempted.update node fun dockable =>
          { dockable with activeTarget := none, originTarget := tearOut.origin }) :=
        .of_owned?_eq (.refl _) (attempted.owned?_update node _ fun _ => rfl)
      have flying := (flown.trans cleared).trans (reowns_enterPhase _ node .dragging)
      exact ⟨flying.nextNumber_le, flying.own, flying.others⟩

theorem reowns_turnAway (target : NodeId) (root : Point) (hooks : Hooks) :
    Reowns node session (session.turnAway target node root hooks).1 := by
  have cleared : Reowns node session ((session.giveFeedback hooks target false).1.update node
      fun dockable => { dockable with activeTarget := none }) :=
    .of_owned?_eq (.refl _)
      (owned?_update (session.giveFeedback hooks target false).1 node _ fun _ => rfl)
  exact cleared.trans (reowns_releaseUndocked _ node root)

theorem reowns_land : Reowns node session (session.land node) := by
  have released := session.reowns_afterRelease node
  unfold land
  generalize session.withCarrier node Carrier.afterRelease = left at released ⊢
  have cleared : Reowns node left (left.update node fun dockable =>
      { dockable with activeTarget := none, originTarget := none, press := none }) :=
    .of_owned?_eq (.refl _) (left.owned?_update node _ fun _ => rfl)
  have docked := (released.trans cleared).trans (reowns_enterPhase _ node .docked)
  refine Reowns.trans ?_ (reowns_syncDestroyed _ node)
  exact ⟨docked.nextNumber_le, docked.own, docked.others⟩

theorem reowns_dock (target : NodeId) (root : Point) (hooks : Hooks) :
    Reowns node session (session.dock target node root hooks).session := by
  have freed := session.reowns_beforeDock node
  unfold dock
  generalize session.withCarrier node (fun carrier scene => carrier.beforeDock scene node)
    = released at freed ⊢
  have placed (tree : Tree) : Reowns node session { released with tree } :=
    ⟨freed.nextNumber_le, freed.own, freed.others⟩
  dsimp only
  split
  · split
    · exact (placed _).trans (reowns_turnAway _ node target root hooks)
    · exact (placed _).trans (reowns_land _ node)
  · exact session.reowns_turnAway node target root hooks

theorem reowns_build (plan : DockablePlan) :
    Reowns session.tree.nextId session (session.build plan).1 := by
  have registered : Reowns session.tree.nextId session { session with
      tree := (buildWidgets session.tree plan).tree
      dockables := session.dockables.insert session.tree.nextId
        (newDockable session plan (buildWidgets session.tree plan).handle) } := by
    refine ⟨Nat.le_refl _, fun window owned => ?_, fun other window apart owned => ?_⟩
    · rw [owned?, dockable?, Table.get?_insert, if_pos rfl] at owned
      cases owned
    · rwa [owned?, dockable?, Table.get?_insert, if_neg apart] at owned
  unfold build giveFirstPlace
  dsimp only
  rw [body_buildWidgets]
  have painted (current : Session) (reowns : Reowns session.tree.nextId session current) :
      Reowns session.tree.nextId session (current.repaint session.tree.nextId) := by
    refine reowns.trans (.of_owned?_eq ?_
      (current.owned?_congr (current.dockables_repaint session.tree.nextId)))
    unfold repaint
    split <;> exact .refl _
  refine painted _ ?_
  split
  · exact ⟨registered.nextNumber_le, registered.own, registered.others⟩
  · exact registered.trans (reowns_settleCarrier _ _ _)

end Ownership

namespace Exclusive

variable (exclusive : session.Exclusive)
include exclusive

theorem congr {after : Session} (driven : Desktop.Driven session.desktop after.desktop)
    (same : ∀ other, after.owned? other = session.owned? other) : after.Exclusive where
  number_lt node window owned := Nat.lt_of_lt_of_le
    (exclusive.number_lt node window ((same node).symm.trans owned)) driven.nextNumber_le
  distinct first second window owns claims := exclusive.distinct first second window
    ((same first).symm.trans owns) ((same second).symm.trans claims)

theorem deed {after : Session} (deed : Deed session after) : after.Exclusive := by
  have driven := driven_deed deed
  cases deed with
  | arrange evolves => exact exclusive.congr driven fun _ => rfl
  | post outbox => exact exclusive.congr driven fun _ => rfl
  | press node press =>
      exact exclusive.congr driven (session.owned?_update node _ fun _ => rfl)
  | follow found flying root => exact exclusive.congr driven fun _ => rfl
  | resize found edge => exact exclusive.congr driven fun _ => rfl
  | ask => exact exclusive.congr driven fun _ => rfl
  | @aim node dockable found flying target =>
      refine exclusive.congr driven fun other => ?_
      rw [owned?_enterPhase, owned?_update]
      exact fun _ => rfl
  | @settle node dockable found flying root =>
      exact (session.reowns_settleUndocked node root).exclusive exclusive
  | @beginDrag node dockable found resting tearOut =>
      exact (session.reowns_beginDrag node tearOut).exclusive exclusive
  | @dock node dockable found flying target root hooks =>
      exact (session.reowns_dock node target root hooks).exclusive exclusive
  | syncDestroyed =>
      exact (session.reowns_syncDestroyed session.tree.nextId).exclusive exclusive
  | build fresh plan => exact (session.reowns_build plan).exclusive exclusive

theorem deeds {after : Session} (deeds : Deeds session after) : after.Exclusive := by
  induction deeds with
  | refl => exact exclusive
  | tail _ deed induction => exact induction.deed deed

theorem perform (orderly : session.Orderly) (operation : Operation) :
    (session.perform operation).Exclusive := by
  by_cases inhouse : ∀ command, operation ≠ .command command
  · exact exclusive.deeds (deeds_perform orderly inhouse)
  · push Not at inhouse
    obtain ⟨command, rfl⟩ := inhouse
    exact exclusive.congr (.obey session.desktop command) fun _ => rfl

end Exclusive

theorem exclusive_run (desktop : Desktop) (settings : Settings) (operations : List Operation) :
    ((start desktop settings).run operations).Exclusive := by
  have both : ((start desktop settings).run operations).Orderly ∧
      ((start desktop settings).run operations).Exclusive :=
    run_induction (motive := fun session => session.Orderly ∧ session.Exclusive)
      ⟨.start desktop settings, exclusive_start desktop settings⟩
      (fun _ operation both => ⟨both.1.perform operation, both.2.perform both.1 operation⟩)
      operations
  exact both.2

end Session
end Docking

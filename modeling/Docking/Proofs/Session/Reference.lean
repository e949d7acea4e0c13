import Docking.Proofs.Flight.Reference
import Docking.Proofs.Flight.Run
import Docking.Proofs.Session.Housing
import Docking.Proofs.Tree.Record
import Docking.Proofs.Window.Attendance

namespace Docking

/-! Every node that a dockable refers to is there or on the record of destructions, as long as
nobody but docking itself takes that record. -/

open Docking.Tree (Rehouses Retains Traces)

theorem Tree.Rehouses.retains {node : NodeId} {before after : Tree}
    (rehouses : Rehouses node before after) : Retains before after := by
  induction rehouses with
  | refl => exact .refl _
  | detach _ earlier => exact earlier.trans (.detach _ node)
  | place _ _ _ earlier => exact earlier.trans (.of_sameLinks (.place _ node _))
  | attachWindow _ window earlier => exact earlier.trans (.attachWindow _ node window)
  | detachWindow _ earlier => exact earlier.trans (.detachWindow _ node)

theorem Carrier.rehouses_release (carrier : Carrier) (scene : Scene) (node : NodeId) :
    Rehouses node scene.tree (carrier.release scene node).2.tree := by
  have dropped (released : Carrier) := rehouses_dropWindow (released.clearCursor scene).1
    (released.clearCursor scene).2 node
  simp only [tree_clearCursor] at dropped
  exact dropped _

namespace Session

section Retention

variable (session : Session) (node : NodeId)

theorem retains_enterPhase (phase : Phase) :
    Retains session.tree (session.enterPhase node phase).tree := by
  unfold enterPhase repaint
  split
  · exact .refl _
  · exact .of_sameLinks (Dockable.sameLinks_paint _ node session.tree)

theorem retains_withCarrier {action : Carrier → Scene → Carrier × Scene}
    (rehouses : ∀ carrier, Rehouses node session.tree (action carrier session.toScene).2.tree) :
    Retains session.tree (session.withCarrier node action).tree := by
  unfold withCarrier
  split
  · exact .refl _
  · exact (rehouses _).retains

theorem retains_tryCarrier
    {action : Carrier → Scene → Carrier.Outcome (Except DesktopError Unit)}
    (rehouses : ∀ carrier,
      Rehouses node session.tree (action carrier session.toScene).scene.tree) :
    Retains session.tree (session.tryCarrier node action).1.tree := by
  unfold tryCarrier
  split
  · exact .refl _
  · exact (rehouses _).retains

theorem retains_beforeDock :
    Retains session.tree
      (session.withCarrier node fun carrier scene => carrier.beforeDock scene node).tree :=
  session.retains_withCarrier node fun carrier => carrier.rehouses_beforeDock session.toScene node

theorem retains_settleCarrier (root : Point) :
    Retains session.tree (session.settleCarrier node root).tree :=
  session.retains_tryCarrier node fun carrier =>
    carrier.rehouses_settle session.toScene session.settings node root

theorem retains_settleUndocked (root : Point) :
    Retains session.tree (session.settleUndocked node root).tree := by
  have settled := retains_settleCarrier (session.leaveActiveTarget node) node root
  rw [tree_leaveActiveTarget] at settled
  have rested := retains_enterPhase
    ((((session.leaveActiveTarget node).settleCarrier node root).withCarrier node
      Carrier.afterRelease).update node fun dockable =>
        { dockable with originTarget := none }) node .undocked
  rw [tree_update, tree_withCarrier_afterRelease] at rested
  unfold settleUndocked
  dsimp only
  split <;> exact settled.trans rested

theorem retains_undoTearOut (layout : Rect) (former : Option (NodeId × Nat)) (root : Point) :
    Retains session.tree (session.undoTearOut node layout former root).tree := by
  have grounded := session.retains_beforeDock node
  unfold undoTearOut
  dsimp only
  split
  · exact (grounded.trans (.insertChild _ _ _ node)).trans (.of_sameLinks (.place _ node layout))
  · have entered := retains_enterPhase (((session.withCarrier node fun carrier scene =>
      carrier.beforeDock scene node).settleCarrier node root).withCarrier node
        Carrier.afterRelease) node .undocked
    rw [tree_withCarrier_afterRelease] at entered
    exact (grounded.trans (retains_settleCarrier _ node root)).trans entered

theorem retains_beginDrag (tearOut : TearOut) :
    Retains session.tree (session.beginDrag node tearOut).1.tree := by
  have freed := Retains.detach session.tree node
  have flown : Retains session.tree (session.attemptFlight node tearOut).1.tree :=
    freed.trans (retains_tryCarrier { session with tree := (session.tree.detach node).1 } node
      fun carrier => carrier.rehouses_undock _ session.settings node _ _)
  have begun := session.dragBegun_beginDrag node tearOut
  generalize session.beginDrag node tearOut = outcome at begun ⊢
  cases begun with
  | declined hindered => exact .refl _
  | unknown alone missing => exact freed
  | failed alone placed found tried =>
      rw [tried] at flown
      exact flown.trans (retains_undoTearOut _ node _ _ _)
  | @launched _ attempted alone found tried =>
      rw [tried] at flown
      exact flown.trans (retains_enterPhase (attempted.update node _) node .dragging)

theorem retains_build (plan : DockablePlan) :
    Retains (session.tree.add (.newPanel plan.label) plan.layout) (session.build plan).1.tree := by
  have built : Retains (session.tree.add (.newPanel plan.label) plan.layout)
      (buildWidgets session.tree plan).tree := by
    unfold buildWidgets
    dsimp only
    split
    · exact .refl _
    · exact (Retains.add _ _ _).trans (.insertChild _ _ _ _)
  have placed (current : Session) (body : NodeId) :
      Retains current.tree ((current.giveFirstPlace plan body).repaint body).tree := by
    have lodged : Retains current.tree (current.giveFirstPlace plan body).tree := by
      unfold giveFirstPlace
      split
      · exact .insertChild _ _ _ _
      · exact current.retains_settleCarrier body _
    unfold repaint
    split
    · exact lodged
    · exact lodged.trans (.of_sameLinks (Dockable.sameLinks_paint _ body _))
  exact built.trans (placed { session with
    tree := (buildWidgets session.tree plan).tree
    dockables := session.dockables.insert (buildWidgets session.tree plan).body
      (newDockable session plan (buildWidgets session.tree plan).handle) } _)

theorem retains_forgetDockable (destroyed : List NodeId) :
    Retains session.tree (forgetDockable destroyed session node).tree := by
  rcases session.forgetDockable_cases node destroyed with ⟨_, same⟩ | ⟨dockable, _, _, _, same⟩
  · rw [same]
    exact .refl _
  · rw [same]
    exact (dockable.carrier.rehouses_release session.toScene node).retains

theorem retains_forgetTargets (destroyed : List NodeId) :
    Retains session.tree (forgetTargets destroyed session node).tree := by
  unfold forgetTargets
  split
  · exact .refl _
  · dsimp only
    split
    · exact retains_enterPhase (session.update node _) node .dragging
    · exact .refl _

theorem retains_syncDestroyed :
    Retains session.tree.forgetDestroyed session.syncDestroyed.tree := by
  refine syncDestroyed_induction
    (motive := fun current => Retains session.tree.forgetDestroyed current.tree) (.refl _) ?_ ?_
  · exact fun current node earlier => earlier.trans (current.retains_forgetDockable node _)
  · exact fun current node earlier => earlier.trans (current.retains_forgetTargets node _)

end Retention

variable {session : Session}

/-- The nodes that the dockables of a session are, aim at or come from. -/
def Refers (session : Session) (reference : NodeId) : Prop :=
  ∃ node dockable, session.dockable? node = some dockable ∧
    (node = reference ∨ dockable.activeTarget = some reference ∨
      dockable.originTarget = some reference)

theorem refers_iff (session : Session) (reference : NodeId) :
    session.Refers reference ↔ session.flight.Refers reference := by
  constructor
  · rintro ⟨node, dockable, found, leads⟩
    exact ⟨node, dockable.standing, standing?_of_dockable? found, leads⟩
  · rintro ⟨node, standing, stands, leads⟩
    obtain ⟨dockable, found, rfl⟩ := Option.map_eq_some_iff.mp stands
    exact ⟨node, dockable, found, leads⟩

structure Anchored (session : Session) : Prop where
  wellFormed : session.tree.WellFormed
  accounts : ∀ reference, session.flight.Refers reference → session.tree.Accounts reference

theorem anchored_start (desktop : Desktop) (settings : Settings) :
    (start desktop settings).Anchored where
  wellFormed := Tree.wellFormed_empty
  accounts _ refers := by
    obtain ⟨_, _, found, _⟩ := refers
    cases found

namespace Anchored

variable {after : Session} {node : NodeId} (anchored : session.Anchored)
include anchored

theorem make (turn : Flight.Turn) (flight_eq : after.flight = session.flight.make turn)
    (traces : Traces session.tree after.tree)
    (introduces : ∀ reference, turn.introduces = some reference →
      after.tree.Accounts reference) : after.Anchored where
  wellFormed := traces.wellFormed anchored.wellFormed
  accounts reference refers := by
    rw [flight_eq] at refers
    rcases Flight.refers_make refers with known | fresh
    · exact traces.accounts anchored.wellFormed reference (anchored.accounts reference known)
    · exact introduces reference fresh

theorem makeKnown (turn : Flight.Turn) (flight_eq : after.flight = session.flight.make turn)
    (traces : Traces session.tree after.tree) (known : turn.introduces = none) :
    after.Anchored :=
  anchored.make turn flight_eq traces fun _ introduces => nomatch known.symm.trans introduces

theorem stay (same : after.flight.standing? = session.flight.standing?)
    (traces : Traces session.tree after.tree) : after.Anchored where
  wellFormed := traces.wellFormed anchored.wellFormed
  accounts reference refers :=
    traces.accounts anchored.wellFormed reference
      (anchored.accounts reference (Flight.refers_congr same refers))

theorem update (node : NodeId) (change : Dockable → Dockable)
    (active : ∀ dockable, (change dockable).activeTarget = none ∨
      (change dockable).activeTarget = dockable.activeTarget)
    (origin : ∀ dockable, (change dockable).originTarget = none ∨
      (change dockable).originTarget = dockable.originTarget) :
    (session.update node change).Anchored where
  wellFormed := anchored.wellFormed
  accounts reference refers := by
    refine anchored.accounts reference ((session.refers_iff reference).mp ?_)
    obtain ⟨other, dockable, found, leads⟩ :=
      ((session.update node change).refers_iff reference).mpr refers
    rw [dockable?_update] at found
    split at found
    · next here =>
        obtain ⟨earlier, known, rfl⟩ := Option.map_eq_some_iff.mp found
        refine ⟨node, earlier, known, ?_⟩
        rcases leads with same | aims | leaves
        · exact .inl (here.symm.trans same)
        · rcases active earlier with cleared | kept
          · exact nomatch cleared.symm.trans aims
          · exact .inr (.inl (kept.symm.trans aims))
        · rcases origin earlier with cleared | kept
          · exact nomatch cleared.symm.trans leaves
          · exact .inr (.inr (kept.symm.trans leaves))
    · exact ⟨other, dockable, found, leads⟩

theorem enterPhase (node : NodeId) (phase : Phase) :
    (session.enterPhase node phase).Anchored := by
  have entered : (session.update node fun dockable => dockable.withPhase phase).Anchored :=
    anchored.update node _ (fun _ => .inr rfl) fun _ => .inr rfl
  have retained := session.retains_enterPhase node phase
  unfold Session.enterPhase at retained ⊢
  exact entered.stay (congrArg Flight.standing? (flight_repaint _ node)) retained.traces

/-- After the record has been taken, every reference leads to a node that is there. -/
theorem contains_syncDestroyed {reference : NodeId}
    (refers : session.syncDestroyed.flight.Refers reference) :
    session.syncDestroyed.tree.contains reference = true := by
  rw [flight_syncDestroyed] at refers
  obtain ⟨known, kept⟩ := Flight.refers_forget refers
  have present := (anchored.accounts reference known).resolve_right kept
  exact session.retains_syncDestroyed.contains anchored.wellFormed.forgetDestroyed _ present

theorem syncDestroyed : session.syncDestroyed.Anchored where
  wellFormed := session.evolves_syncDestroyed.wellFormed anchored.wellFormed
  accounts _ refers := .inl (anchored.contains_syncDestroyed refers)

theorem destroy (node : NodeId) :
    ({ session with tree := (session.tree.destroy node).1 } : Session).Anchored :=
  anchored.stay rfl (session.tree.traces_destroy node)

theorem destroyWidget (node : NodeId) : (session.destroyWidget node).Anchored :=
  (anchored.destroy node).syncDestroyed

theorem settleUndocked (node : NodeId) (root : Point) :
    (session.settleUndocked node root).Anchored :=
  anchored.makeKnown (.settle node) (session.flight_settleUndocked node root)
    (session.retains_settleUndocked node root).traces rfl

theorem releaseUndocked (node : NodeId) (root : Point) :
    (session.releaseUndocked node root).Anchored := by
  have settled := anchored.settleUndocked node root
  unfold Session.releaseUndocked
  generalize session.settleUndocked node root = rested at settled ⊢
  have asked : ({ rested with desktop := (rested.desktop.confirm rested.settings.confirmTitle
      rested.settings.confirmMessage).1 } : Session).Anchored := settled.stay rfl (.refl _)
  dsimp only
  split
  · split
    · exact asked
    · exact asked.destroyWidget node
  · exact settled

theorem beginDrag (node : NodeId) (tearOut : TearOut)
    (origin : ∀ reference, tearOut.origin = some reference → session.tree.Accounts reference) :
    (session.beginDrag node tearOut).1.Anchored := by
  have traces := (session.retains_beginDrag node tearOut).traces
  have begun := session.flight_beginDrag node tearOut
  split at begun
  · next same =>
      rw [same] at traces ⊢
      refine anchored.make (.launch node tearOut.origin) begun.2.2 traces ?_
      intro reference introduces
      exact traces.accounts anchored.wellFormed reference (origin reference introduces)
  · next same =>
      rw [same] at traces ⊢
      rcases begun with kept | ⟨_, grounded⟩
      · exact anchored.stay (congrArg Flight.standing? kept) traces
      · exact anchored.makeKnown (.ground node) grounded traces rfl

end Anchored
end Session
end Docking

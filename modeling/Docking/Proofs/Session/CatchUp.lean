import Docking.Proofs.Flight.Dismissal
import Docking.Proofs.Session.Upkeep

namespace Docking

/-! Catching up with destructions: who leaves, which windows close, which references are
cleared and who is told. After it, every reference leads to a node that is there. -/

open Session (leadsInto forgetDockable forgetTargets)

namespace Dockable

variable {gone : List NodeId} {dockable : Dockable}

/-- Destroyed targets are forgotten; a dockable that hovered over one is dragged on. -/
def forget (gone : List NodeId) (dockable : Dockable) : Dockable :=
  { dockable with
    phase :=
      if leadsInto gone dockable.activeTarget && dockable.phase = .hovering then .dragging
      else dockable.phase
    activeTarget :=
      if leadsInto gone dockable.activeTarget then none else dockable.activeTarget
    originTarget :=
      if leadsInto gone dockable.originTarget then none else dockable.originTarget }

theorem forget_of_apart (active : leadsInto gone dockable.activeTarget = false)
    (origin : leadsInto gone dockable.originTarget = false) :
    dockable.forget gone = dockable := by
  simp [forget, active, origin]

end Dockable

namespace Session

variable (session : Session) (node : NodeId)

theorem leadsInto_eq_false {gone : List NodeId} {reference : Option NodeId}
    (apart : ∀ target ∈ gone, reference ≠ some target) : leadsInto gone reference = false := by
  cases reference with
  | none => rfl
  | some target => simpa [leadsInto] using fun member => apart target member rfl

@[simp] theorem dockables_repaint : (session.repaint node).dockables = session.dockables := by
  unfold repaint
  split <;> rfl

section ForgetTargets

variable (gone : List NodeId)

theorem dockable?_forgetTargets (other : NodeId) :
    (forgetTargets gone session node).dockable? other =
      if other = node then (session.dockable? node).map (Dockable.forget gone)
      else session.dockable? other := by
  unfold forgetTargets
  cases found : session.dockable? node with
  | none =>
      dsimp only
      split
      · next same => rw [same, found, Option.map_none]
      · rfl
  | some dockable =>
      have cleared (phase : Phase) (same : phase = (dockable.forget gone).phase) :
          some { dockable with
            phase
            activeTarget :=
              if leadsInto gone dockable.activeTarget then none else dockable.activeTarget
            originTarget :=
              if leadsInto gone dockable.originTarget then none else dockable.originTarget } =
            some (dockable.forget gone) := by
        rw [same]
        rfl
      dsimp only
      split
      · next both =>
          rw [dockable?, enterPhase, dockables_repaint, ← dockable?, dockable?_update,
            dockable?_update, dockable?_update, if_pos rfl, found]
          split
          · exact cleared .dragging (if_pos both).symm
          · rfl
      · next notBoth =>
          rw [dockable?_update, found]
          split
          · exact cleared dockable.phase (if_neg notBoth).symm
          · rfl

theorem keys_forgetTargets :
    (forgetTargets gone session node).dockables.keys = session.dockables.keys := by
  unfold forgetTargets
  split
  · rfl
  · dsimp only
    split
    · rw [enterPhase, dockables_repaint]
      simp only [update, Table.keys_modify]
    · exact Table.keys_modify _ node _

theorem desktop_forgetTargets :
    (forgetTargets gone session node).desktop = session.desktop := by
  unfold forgetTargets
  split
  · rfl
  · dsimp only
    split
    · exact desktop_enterPhase (session.update node _) node .dragging
    · rfl

theorem dockable?_foldl_forgetTargets {nodes : List NodeId} (nodup : nodes.Nodup) :
    (nodes.foldl (forgetTargets gone) session).dockable? node =
      if node ∈ nodes then (session.dockable? node).map (Dockable.forget gone)
      else session.dockable? node := by
  induction nodes generalizing session with
  | nil => rfl
  | cons head rest induction =>
      obtain ⟨fresh, nodup⟩ := List.nodup_cons.mp nodup
      rw [List.foldl_cons, induction _ nodup, dockable?_forgetTargets]
      by_cases same : node = head
      · subst same
        simp [fresh]
      · simp [same]

theorem dockable?_forgetTargets_keys :
    (session.dockables.keys.foldl (forgetTargets gone) session).dockable? node =
      (session.dockable? node).map (Dockable.forget gone) := by
  have nodup : session.dockables.keys.Nodup := session.dockables.keys_nodup
  rw [dockable?_foldl_forgetTargets session node gone nodup]
  split
  · rfl
  · next unknown =>
      rw [dockable?, (session.dockables.get?_eq_none_iff node).mpr unknown, Option.map_none]

theorem keys_foldl_forgetTargets (nodes : List NodeId) :
    (nodes.foldl (forgetTargets gone) session).dockables.keys = session.dockables.keys := by
  induction nodes generalizing session with
  | nil => rfl
  | cons head rest induction => rw [List.foldl_cons, induction, keys_forgetTargets]

theorem desktop_foldl_forgetTargets (nodes : List NodeId) :
    (nodes.foldl (forgetTargets gone) session).desktop = session.desktop := by
  induction nodes generalizing session with
  | nil => rfl
  | cons head rest induction => rw [List.foldl_cons, induction, desktop_forgetTargets]

end ForgetTargets

section ForgetDockable

variable (gone : List NodeId)

theorem dockables_forgetDockable :
    (forgetDockable gone session node).dockables = session.dockables.erase node := by
  rcases session.forgetDockable_cases node gone with ⟨unknown, same⟩ | ⟨_, _, _, _, same⟩
  · rw [same, Table.erase_of_get?_eq_none unknown]
  · rw [same]

theorem dockable?_foldl_forgetDockable (nodes : List NodeId) :
    (nodes.foldl (forgetDockable gone) session).dockable? node =
      if node ∈ nodes then none else session.dockable? node := by
  induction nodes generalizing session with
  | nil => rfl
  | cons head rest induction =>
      rw [List.foldl_cons, induction, dockable?, dockables_forgetDockable, Table.get?_erase]
      by_cases same : node = head
      · simp [same]
      · simp [same, dockable?]

theorem keys_foldl_forgetDockable (nodes : List NodeId) :
    (nodes.foldl (forgetDockable gone) session).dockables.keys =
      session.dockables.keys.filter (· ∉ nodes) := by
  induction nodes generalizing session with
  | nil => simp
  | cons head rest induction =>
      rw [List.foldl_cons, induction, dockables_forgetDockable, Table.keys_erase,
        List.filter_filter]
      congr 1
      funext other
      simp [Bool.and_comm]

theorem exchange_forgetDockable :
    Desktop.Exchange ((session.dockable? node).bind Dockable.window) none session.desktop
      (forgetDockable gone session node).desktop := by
  rcases session.forgetDockable_cases node gone with
    ⟨unknown, same⟩ | ⟨dockable, _, _, found, same⟩
  · rw [same, unknown]
    exact .refl _
  · rw [same, found]
    exact dockable.carrier.exchange_release session.toScene node

theorem hasWindow_foldl_forgetDockable (nodes : List NodeId) (window : WindowId) :
    (nodes.foldl (forgetDockable gone) session).desktop.hasWindow window = true ↔
      session.desktop.hasWindow window = true ∧ ∀ node ∈ nodes, ∀ dockable,
        session.dockable? node = some dockable → dockable.window ≠ some window := by
  induction nodes generalizing session with
  | nil => simp
  | cons head rest induction =>
      have left (other : NodeId) : (forgetDockable gone session head).dockable? other =
          if other = head then none else session.dockable? other := by
        rw [dockable?, dockables_forgetDockable, Table.get?_erase, dockable?]
      rw [List.foldl_cons, induction, (session.exchange_forgetDockable head gone).hasWindow_iff]
      constructor
      · rintro ⟨opened | ⟨present, apart⟩, others⟩
        · cases opened
        · refine ⟨present, fun node member dockable found owns => ?_⟩
          by_cases same : node = head
          · subst same
            rw [found] at apart
            exact apart owns
          · have waiting := (List.mem_cons.mp member).resolve_left same
            exact others node waiting dockable (by rw [left, if_neg same, found]) owns
      · rintro ⟨present, apart⟩
        refine ⟨.inr ⟨present, fun owns => ?_⟩, fun node member dockable found => ?_⟩
        · obtain ⟨dockable, found, owned⟩ := Option.bind_eq_some_iff.mp owns
          exact apart head List.mem_cons_self dockable found owned
        · rw [left] at found
          split at found
          · cases found
          · exact apart node (List.mem_cons_of_mem _ member) dockable found

end ForgetDockable

theorem dockable?_syncDestroyed :
    session.syncDestroyed.dockable? node =
      if node ∈ session.tree.destroyed then none
      else (session.dockable? node).map (Dockable.forget session.tree.destroyed) := by
  unfold syncDestroyed
  split
  · next nothing =>
      have unchanged : Dockable.forget [] = id := funext fun dockable =>
        Dockable.forget_of_apart (leadsInto_eq_false nofun) (leadsInto_eq_false nofun)
      rw [nothing, if_neg List.not_mem_nil, unchanged, Option.map_id_fun, id]
  · dsimp only
    rw [dockable?_forgetTargets_keys, dockable?_foldl_forgetDockable]
    split <;> rfl

theorem keys_syncDestroyed :
    session.syncDestroyed.dockables.keys =
      session.dockables.keys.filter (· ∉ session.tree.destroyed) := by
  unfold syncDestroyed
  split
  · next nothing => simp [nothing]
  · exact (keys_foldl_forgetTargets _ _ _).trans (keys_foldl_forgetDockable _ _ _)

theorem hasWindow_syncDestroyed (window : WindowId) :
    session.syncDestroyed.desktop.hasWindow window = true ↔
      session.desktop.hasWindow window = true ∧ ∀ node ∈ session.tree.destroyed, ∀ dockable,
        session.dockable? node = some dockable → dockable.window ≠ some window := by
  unfold syncDestroyed
  split
  · next nothing => simp [nothing]
  · dsimp only
    rw [desktop_foldl_forgetTargets]
    exact hasWindow_foldl_forgetDockable _ _ _ window

/-- What catching up with the destructions on record comes to. -/
structure CaughtUp (before after : Session) : Prop where
  destroyed_eq : after.tree.destroyed = []
  keys_eq : after.dockables.keys = before.dockables.keys.filter (· ∉ before.tree.destroyed)
  hasWindow_iff : ∀ window, after.desktop.hasWindow window = true ↔
    before.desktop.hasWindow window = true ∧ ∀ node ∈ before.tree.destroyed, ∀ dockable,
      before.dockable? node = some dockable → dockable.window ≠ some window
  dockable?_eq : ∀ node, after.dockable? node =
    if node ∈ before.tree.destroyed then none
    else (before.dockable? node).map (Dockable.forget before.tree.destroyed)
  /-- A dockable with no part in the destructions is left as it is. -/
  bystander : ∀ node dockable, before.dockable? node = some dockable →
    node ∉ before.tree.destroyed →
      (∀ target ∈ before.tree.destroyed, dockable.activeTarget ≠ some target ∧
        dockable.originTarget ≠ some target) →
        after.dockable? node = some dockable
  /-- A flight goes on without the target that it was over. -/
  fliesOn : ∀ node dockable target, before.dockable? node = some dockable →
    node ∉ before.tree.destroyed → dockable.activeTarget = some target →
      target ∈ before.tree.destroyed →
        after.inFlight = some node ∧ ∃ later, after.dockable? node = some later ∧
          later.phase = .dragging ∧ later.activeTarget = none
  inFlight_eq : after.inFlight = before.inFlight.filter (· ∉ before.tree.destroyed)
  outbox_eq : after.outbox = before.outbox ++ before.flight.farewell before.tree.destroyed

variable {session}

theorem Orderly.registered (orderly : session.Orderly) (node : NodeId)
    (flying : session.flight.inFlight = some node) :
    ∃ standing, session.flight.standing? node = some standing :=
  let ⟨_, found, _⟩ := orderly.dockable?_of_inFlight flying
  ⟨_, standing?_of_dockable? found⟩

theorem Orderly.inFlight_syncDestroyed (orderly : session.Orderly) :
    session.syncDestroyed.inFlight = session.inFlight.filter (· ∉ session.tree.destroyed) := by
  have landed := Flight.inFlight_forget orderly.registered session.tree.destroyed
  rw [← flight_syncDestroyed] at landed
  exact landed

theorem Orderly.caughtUp (orderly : session.Orderly) :
    CaughtUp session session.syncDestroyed where
  destroyed_eq := session.retains_syncDestroyed.destroyed_eq
  keys_eq := session.keys_syncDestroyed
  hasWindow_iff := session.hasWindow_syncDestroyed
  dockable?_eq := session.dockable?_syncDestroyed
  bystander node dockable found stays apart := by
    rw [dockable?_syncDestroyed, if_neg stays, found, Option.map_some]
    exact congrArg some (Dockable.forget_of_apart
      (leadsInto_eq_false fun target lost => (apart target lost).1)
      (leadsInto_eq_false fun target lost => (apart target lost).2))
  fliesOn node dockable target found stays aims lost := by
    have gone : leadsInto session.tree.destroyed dockable.activeTarget = true := by
      rw [aims]
      exact List.contains_iff_mem.mpr lost
    have hovers : dockable.phase = .hovering :=
      (orderly.single.sound node _ (standing?_of_dockable? found)).hovering_iff.mpr
        (Option.isSome_of_mem aims)
    have flying : session.inFlight = some node := (orderly.single.inFlight_iff node).mpr
      ⟨dockable.standing, standing?_of_dockable? found, congrArg Phase.isInFlight hovers⟩
    refine ⟨?_, dockable.forget session.tree.destroyed, ?_, ?_, ?_⟩
    · rw [orderly.inFlight_syncDestroyed, flying]
      exact Option.filter_some_pos (by simpa using stays)
    · rw [dockable?_syncDestroyed, if_neg stays, found, Option.map_some]
    · exact if_pos (by rw [gone, hovers]; rfl)
    · exact if_pos gone
  inFlight_eq := orderly.inFlight_syncDestroyed
  outbox_eq := by
    have told := Flight.outbox_forget orderly.registered session.tree.destroyed
    rw [← flight_syncDestroyed] at told
    exact told

/-- Every reference leads to a node that is there or on record as destroyed. Once that record
has been taken, every reference leads to a node that is there. -/
structure Referential (session : Session) : Prop where
  accounts : ∀ reference, session.Refers reference → session.tree.Accounts reference
  caughtUp : CaughtUp session session.syncDestroyed
  syncDestroyed : ∀ reference, session.syncDestroyed.Refers reference →
    session.syncDestroyed.tree.contains reference = true
  destroyWidget : ∀ node reference, (session.destroyWidget node).Refers reference →
    (session.destroyWidget node).tree.contains reference = true
  destroyDockable : ∀ node reference, (session.destroyDockable node).2 = .ok () →
    (session.destroyDockable node).1.Refers reference →
      (session.destroyDockable node).1.tree.contains reference = true

theorem Anchored.referential (anchored : session.Anchored) (orderly : session.Orderly) :
    session.Referential where
  accounts reference refers :=
    anchored.accounts reference ((session.refers_iff reference).mp refers)
  caughtUp := orderly.caughtUp
  syncDestroyed reference refers :=
    anchored.contains_syncDestroyed ((session.syncDestroyed.refers_iff reference).mp refers)
  destroyWidget node reference refers :=
    (anchored.destroy node).contains_syncDestroyed (((_ : Session).refers_iff reference).mp refers)
  destroyDockable node reference succeeds refers := by
    unfold Session.destroyDockable at succeeds refers ⊢
    split at succeeds
    · next known =>
        rw [if_pos known] at refers ⊢
        exact (anchored.destroy node).contains_syncDestroyed
          (((_ : Session).refers_iff reference).mp refers)
    · cases succeeds

theorem referential_run (desktop : Desktop) (settings : Settings) {operations : List Operation}
    (keeps : ∀ operation ∈ operations, operation.KeepsRecord) :
    ((start desktop settings).run operations).Referential :=
  (anchored_run desktop settings keeps).referential (orderly_run desktop settings operations)

/-- A dockable was torn out of a container and hovers over a panel; another one was left. -/
def overPanel : List Operation :=
  [.edit (.add .newTargetBox ⟨0, 0, 9, 9⟩),
    .edit (.add (.newPanel "panel") ⟨0, 0, 9, 9⟩),
    .create { DockablePlan.new "first" with container := some (⟨0⟩, none) },
    .create { DockablePlan.new "second" with container := some (⟨0⟩, none) },
    .tearOut ⟨2⟩ .zero,
    .targetEvent ⟨1⟩ (.pointerMove ⟨5, 1⟩) .readyMade]

/-- The container goes with the dockable in it, and then either the panel or what is over it. -/
theorem referential_overPanel :
    let later (node : NodeId) := (start (.withCapabilities .all) .standard).run
      (overPanel ++ [.edit (.destroy ⟨0⟩), .edit (.destroy node)])
    (later ⟨1⟩).Referential ∧ (later ⟨1⟩).tree.destroyed = [⟨0⟩, ⟨3⟩, ⟨1⟩] ∧
      (later ⟨1⟩).syncDestroyed.inFlight = some ⟨2⟩ ∧ (later ⟨1⟩).syncDestroyed.outbox = [] ∧
        (later ⟨2⟩).Referential ∧ (later ⟨2⟩).syncDestroyed.inFlight = none ∧
          (later ⟨2⟩).syncDestroyed.outbox = [⟨⟨1⟩, .dockLeave⟩] := by
  have keeps (node : NodeId) : ∀ operation ∈ overPanel ++
      [.edit (.destroy ⟨0⟩), .edit (.destroy node)], operation.KeepsRecord := by
    intro operation member
    simp only [overPanel, List.cons_append, List.nil_append, List.mem_cons, List.not_mem_nil,
      or_false] at member
    rcases member with rfl | rfl | rfl | rfl | rfl | rfl | rfl | rfl
    · exact nofun
    · exact nofun
    · trivial
    · trivial
    · trivial
    · exact Hooks.keepsRecord_readyMade
    · exact nofun
    · exact nofun
  exact ⟨referential_run _ _ (keeps ⟨1⟩), by decide +kernel, by decide +kernel, by decide +kernel,
    referential_run _ _ (keeps ⟨2⟩), by decide +kernel, by decide +kernel⟩

end Session
end Docking

import Docking.Proofs.Session.Picture
import Docking.Proofs.Window.Recovery

namespace Docking.Session

/-! The ends of a flight other than docking lose nothing: the dockable is registered, rests in
a window of its own, and nothing is left of the flight. -/

/-- The application has kept its hands off the dockables, their windows and the picture in
place of the pointer. -/
inductive Careful (capabilities : Capabilities) (settings : Settings) : Session → Prop
  | start : Careful capabilities settings (start (.withCapabilities capabilities) settings)
  | step {session : Session} {operation : Operation}
      (careful : Careful capabilities settings session) (spares : session.Spares operation)
      (unpictured : ∀ image, operation ≠ .command (.setDragCursor image)) :
      Careful capabilities settings (session.perform operation)

variable {session : Session} {node : NodeId}

theorem Pictured.obey (pictured : session.Pictured) {command : Desktop.Command}
    (unpictured : ∀ image, command ≠ .setDragCursor image) :
    Pictured { session with desktop := session.desktop.obey command } := by
  have kept (same : (session.desktop.obey command).cursor = session.desktop.cursor) :
      Pictured { session with desktop := session.desktop.obey command } :=
    pictured.congr same rfl
  cases command with
  | setDragCursor image => exact absurd rfl (unpictured image)
  | clearDragCursor => exact ⟨nofun, pictured.resting⟩
  | createWindow descriptor => exact kept (session.desktop.cursor_createWindow descriptor)
  | destroyWindow window => exact kept (session.desktop.cursor_destroyWindow window)
  | moveWindow window position => exact kept (session.desktop.cursor_moveWindow window position)
  | startSystemDrag window payload =>
      exact kept (session.desktop.cursor_startSystemDrag window payload)
  | startInteractiveResize window edge =>
      exact kept (session.desktop.cursor_startInteractiveResize window edge)
  | _ => exact kept rfl

theorem Pictured.perform (pictured : session.Pictured) (orderly : session.Orderly)
    {operation : Operation} (unpictured : ∀ image, operation ≠ .command (.setDragCursor image)) :
    (session.perform operation).Pictured := by
  by_cases inhouse : ∀ command, operation ≠ .command command
  · exact pictured.deeds (deeds_perform orderly inhouse)
  · push Not at inhouse
    obtain ⟨command, rfl⟩ := inhouse
    exact pictured.obey fun image same => unpictured image (congrArg Operation.command same)

namespace Careful

variable {capabilities : Capabilities} {settings : Settings}
  (careful : Careful capabilities settings session)
include careful

theorem balanced : ∃ made, Ledger.Balanced ⟨session, made⟩ := by
  induction careful with
  | start => exact ⟨[], .start capabilities settings⟩
  | @step session operation _ spares _ earlier =>
      obtain ⟨made, balanced⟩ := earlier
      have advanced := balanced.advance spares
      cases operation <;> exact ⟨_, advanced⟩

theorem pictured : session.Pictured := by
  induction careful with
  | start => exact pictured_start capabilities settings
  | step careful _ unpictured pictured =>
      obtain ⟨_, balanced⟩ := careful.balanced
      exact pictured.perform balanced.orderly unpictured

end Careful

/-- An end of the flight of `node`, or a tear-out of it that the windowing system fails, with
what it leads to. -/
inductive Fallback (session : Session) (node : NodeId) : Session → Prop
  | released {dockable : Dockable} (found : session.dockable? node = some dockable)
      (dragging : dockable.phase = .dragging) (root : Point) :
      Fallback session node (session.payloadEvent node (.pointerUp .primary root)).1
  | grabLost (flying : session.inFlight = some node) :
      Fallback session node (session.payloadEvent node .grabLost).1
  | focusLost {dockable : Dockable} {window : WindowId} (flying : session.inFlight = some node)
      (found : session.dockable? node = some dockable) (owns : dockable.window = some window) :
      Fallback session node (session.payloadEvent node (.focusLost window)).1
  | closeRequested {dockable : Dockable} {window : WindowId}
      (flying : session.inFlight = some node)
      (found : session.dockable? node = some dockable) (owns : dockable.window = some window) :
      Fallback session node (session.payloadEvent node (.closeRequested window)).1
  | dndFinished (flying : session.inFlight = some node) (accepted : Bool) :
      Fallback session node (session.payloadEvent node (.dndFinished accepted)).1
  | forced (flying : session.inFlight = some node) :
      Fallback session node (session.forceUndocked node).1
  | refused {target : NodeId} {event : Event} {root : Point} {hooks : Hooks}
      (hovers : session.HoversOver node target) (release : session.MeansRelease event root)
      (onlyShows : hooks.OnlyShows)
      (refuses : (hooks.runAccept session.tree target node).1 = false) :
      Fallback session node (session.targetEvent target event hooks).session
  | notInserted {target : NodeId} {event : Event} {root : Point} {hooks : Hooks}
      (hovers : session.HoversOver node target) (release : session.MeansRelease event root)
      (onlyShows : hooks.OnlyShows)
      (unmoved : session.insertedTree target node hooks =
        (session.withCarrier node fun carrier scene => carrier.beforeDock scene node).tree) :
      Fallback session node (session.targetEvent target event hooks).session
  | notTornOut {dockable : Dockable} {root : Point} {error : DesktopError}
      (found : session.dockable? node = some dockable) (undocked : dockable.phase = .undocked)
      (failed : (session.tearOut node root).2 = .error (.desktop error)) :
      Fallback session node (session.tearOut node root).1

variable {after : Session}

theorem Fallback.performed (fallback : session.Fallback node after) :
    ∃ operation, after = session.perform operation ∧
      ∀ command, operation ≠ .command command := by
  cases fallback with
  | released _ _ root => exact ⟨.payloadEvent node (.pointerUp .primary root), rfl, nofun⟩
  | grabLost => exact ⟨.payloadEvent node .grabLost, rfl, nofun⟩
  | focusLost => exact ⟨.payloadEvent node (.focusLost _), rfl, nofun⟩
  | closeRequested => exact ⟨.payloadEvent node (.closeRequested _), rfl, nofun⟩
  | dndFinished _ accepted => exact ⟨.payloadEvent node (.dndFinished accepted), rfl, nofun⟩
  | forced => exact ⟨.forceUndocked node, rfl, nofun⟩
  | refused => exact ⟨.targetEvent _ _ _, rfl, nofun⟩
  | notInserted => exact ⟨.targetEvent _ _ _, rfl, nofun⟩
  | notTornOut => exact ⟨.tearOut node _, rfl, nofun⟩

section Interruption

variable {dockable : Dockable} (found : session.dockable? node = some dockable)
  (flying : dockable.isInFlight = true)
include found flying

theorem payloadEvent_grabLost :
    (session.payloadEvent node .grabLost).1 =
      session.settleUndocked node session.desktop.pointer.root := by
  unfold payloadEvent
  rw [found]
  simp only [interruption?, flying, if_true]

theorem payloadEvent_focusLost {window : WindowId} (owns : dockable.window = some window) :
    (session.payloadEvent node (.focusLost window)).1 =
      session.settleUndocked node session.desktop.pointer.root := by
  unfold payloadEvent
  rw [found]
  simp only [interruption?, flying, owns, decide_true, Bool.and_true, if_true]

theorem payloadEvent_closeRequested {window : WindowId} (owns : dockable.window = some window) :
    (session.payloadEvent node (.closeRequested window)).1 =
      session.settleUndocked node session.desktop.pointer.root := by
  unfold payloadEvent
  rw [found]
  simp only [interruption?, flying, owns, if_true]

theorem payloadEvent_dndFinished (accepted : Bool) :
    (session.payloadEvent node (.dndFinished accepted)).1 =
      session.releaseUndocked node session.desktop.pointer.root := by
  unfold payloadEvent
  rw [found]
  simp only [interruption?, flying, if_true]

theorem fst_forceUndocked :
    (session.forceUndocked node).1 =
      session.settleUndocked node session.desktop.pointer.root := by
  unfold forceUndocked
  rw [found]
  cases phase : dockable.phase with
  | dragging => simp only [phase]
  | hovering => simp only [phase]
  | undocked =>
      rw [Dockable.isInFlight, phase] at flying
      cases flying
  | docked =>
      rw [Dockable.isInFlight, phase] at flying
      cases flying

end Interruption

theorem tearOut_of_failed {root : Point} {error : DesktopError}
    (failed : (session.tearOut node root).2 = .error (.desktop error)) :
    ∃ tearOut : TearOut, tearOut.slot = none ∧
      session.tearOut node root = session.beginDrag node tearOut := by
  rcases session.staysPut_or_begins node root with ⟨result, stays⟩ | ⟨_, asked, begins⟩
  · rw [stays.unchanged] at failed
    exact absurd failed (stays.unasked error)
  · exact ⟨asked, begins.slotless, begins.begun⟩

theorem fst_beginDrag_of_failed (rooted : session.tree.parent? node = none) {tearOut : TearOut}
    (noSlot : tearOut.slot = none) {error : DesktopError}
    (failed : (session.beginDrag node tearOut).2 = .error (.desktop error)) :
    ∃ layout, session.otherInFlight? node = none ∧ (session.beginDrag node tearOut).1 =
      (session.tryCarrier node fun carrier scene => carrier.undock scene session.settings node
        tearOut.root tearOut.grab).1.undoTearOut node layout none tearOut.root := by
  have begun := session.dragBegun_beginDrag node tearOut
  generalize session.beginDrag node tearOut = outcome at begun failed ⊢
  cases begun with
  | declined hindered unasked => exact absurd (Except.error.inj failed) (unasked error)
  | unknown alone missing => cases failed
  | @failed _ attempted report layout alone placed _ tried =>
      refine ⟨layout, alone, ?_⟩
      rw [attemptFlight, Tree.detach_of_parent?_eq_none rooted] at tried
      rw [Tree.detach_of_parent?_eq_none rooted, noSlot, Option.or_none, tried]
  | launched alone _ tried => cases failed

section Recovery

variable {survey : Survey} (orderly : session.Orderly) (tidy : session.Tidy survey)
include orderly tidy

theorem comesDown_of_inFlight (flying : session.inFlight = some node) :
    ComesDown survey session node session :=
  let ⟨_, attends⟩ := tidy.attends_of_roams (orderly.roams_of_inFlight flying)
  .refl attends

theorem putDown_dock {target : NodeId} {hooks : Hooks} (flying : session.inFlight = some node)
    (onlyShows : hooks.OnlyShows)
    (refuses : (hooks.runAccept session.tree target node).1 = false ∨
      session.insertedTree target node hooks =
        (session.withCarrier node fun carrier scene => carrier.beforeDock scene node).tree)
    (root : Point)
    (grants : session.desktop.Grants
      (session.dock target node root hooks).session.desktop)
    (keeps : (session.dock target node root hooks).session.desktop.questions ≠
      session.desktop.questions → session.desktop.confirmAnswer = true) :
    PutDown survey session node (session.dock target node root hooks).session := by
  have comes := comesDown_of_inFlight orderly tidy flying
  have turned {away : Session} (comes : ComesDown survey session node away)
      (grants : session.desktop.Grants (away.turnAway target node root hooks).1.desktop)
      (keeps : (away.turnAway target node root hooks).1.desktop.questions ≠
        session.desktop.questions → session.desktop.confirmAnswer = true) :
      PutDown survey session node (away.turnAway target node root hooks).1 := by
    unfold turnAway at grants keeps ⊢
    dsimp only at grants keeps ⊢
    rw [fst_giveFeedback onlyShows] at grants keeps ⊢
    have cleared := comes.update (fun dockable => { dockable with activeTarget := none })
      (fun _ => rfl) fun _ => rfl
    exact cleared.releaseUndocked flying root grants keeps
  have freed := comes.beforeDock
  unfold insertedTree at refuses
  unfold dock at grants keeps ⊢
  generalize session.withCarrier node (fun carrier scene => carrier.beforeDock scene node) = left
    at freed refuses grants keeps ⊢
  dsimp only at grants keeps ⊢
  split at grants
  · next accepted =>
      have unmoved := refuses.resolve_left (ne_false_of_eq_true accepted)
      obtain ⟨window, attends⟩ := freed.attends
      have rooted := attends.hosts.parent?_eq
      rw [if_pos accepted] at keeps ⊢
      rw [unmoved, rooted] at grants keeps ⊢
      exact turned freed grants keeps
  · next declined =>
      rw [if_neg declined] at keeps ⊢
      exact turned comes grants keeps

theorem putDown_tearOut {dockable : Dockable} (found : session.dockable? node = some dockable)
    (undocked : dockable.phase = .undocked) {root : Point} {error : DesktopError}
    (failed : (session.tearOut node root).2 = .error (.desktop error))
    (grants : session.desktop.Grants (session.tearOut node root).1.desktop) :
    PutDown survey session node (session.tearOut node root).1 := by
  have resting : dockable.isInFlight = false := congrArg Phase.isInFlight undocked
  have stands := standing?_of_dockable? found
  have sound := orderly.single.sound node _ stands
  have roams := roams_of_dockable? found (by rw [undocked]; decide)
  obtain ⟨window, attends⟩ := tidy.attends_of_roams roams
  have rooted := attends.hosts.parent?_eq
  obtain ⟨tearOut, noSlot, torn_eq⟩ := tearOut_of_failed failed
  rw [torn_eq] at failed grants ⊢
  obtain ⟨layout, alone, begun_eq⟩ := fst_beginDrag_of_failed rooted noSlot failed
  rw [begun_eq] at grants ⊢
  have grounded : session.inFlight = none := by
    cases flying : session.inFlight with
    | none => rfl
    | some other =>
        have mine : other = node := by
          simpa [otherInFlight?, flying, Option.filter] using alone
        exact absurd (mine ▸ flying) (orderly.single.inFlight_ne stands resting)
  have comes := (ComesDown.refl attends).undock tearOut.root tearOut.grab
  refine comes.undoTearOut grounded (fun now known => ?_) layout tearOut.root grants
  rw [dockable?_tryCarrier found, Option.some.injEq] at known
  have apart : dockable.phase ≠ .hovering := by
    rw [undocked]
    decide
  have aimless := sound.activeTarget_eq_none apart
  have homeless := sound.originTarget_eq_none resting
  rw [← known]
  exact ⟨aimless, homeless⟩

theorem Fallback.putDown (fallback : session.Fallback node after)
    (grants : session.desktop.Grants after.desktop)
    (keeps : after.desktop.questions ≠ session.desktop.questions →
      session.desktop.confirmAnswer = true) : PutDown survey session node after := by
  have comes (flying : session.inFlight = some node) :=
    comesDown_of_inFlight orderly tidy flying
  have airborne {dockable : Dockable} (flying : session.inFlight = some node)
      (found : session.dockable? node = some dockable) : dockable.isInFlight = true := by
    obtain ⟨same, known, flies⟩ := orderly.dockable?_of_inFlight flying
    rw [found] at known
    cases known
    exact flies
  cases fallback with
  | @released dockable found dragging root =>
      have flies : dockable.isInFlight = true := congrArg Phase.isInFlight dragging
      have flying := (orderly.single.inFlight_iff node).mpr
        ⟨_, standing?_of_dockable? found, flies⟩
      have sound := orderly.single.sound node _ (standing?_of_dockable? found)
      have aimless := sound.activeTarget_eq_none fun hovering =>
        nomatch dragging.symm.trans hovering
      rw [payloadEvent_of_dragsFreely root ⟨flying, dockable, found, dragging, aimless⟩]
        at grants keeps ⊢
      have calm : ComesDown survey session node (session.letGo node) :=
        (comes flying).update (fun dockable => { dockable with press := none }) (fun _ => rfl)
          fun _ => rfl
      exact calm.releaseUndocked flying root grants keeps
  | grabLost flying =>
      obtain ⟨dockable, found, flies⟩ := orderly.dockable?_of_inFlight flying
      rw [payloadEvent_grabLost found flies] at grants ⊢
      exact (comes flying).settleUndocked flying _ grants
  | focusLost flying found owns =>
      rw [payloadEvent_focusLost found (airborne flying found) owns] at grants ⊢
      exact (comes flying).settleUndocked flying _ grants
  | closeRequested flying found owns =>
      rw [payloadEvent_closeRequested found (airborne flying found) owns] at grants ⊢
      exact (comes flying).settleUndocked flying _ grants
  | dndFinished flying accepted =>
      obtain ⟨dockable, found, flies⟩ := orderly.dockable?_of_inFlight flying
      rw [payloadEvent_dndFinished found flies] at grants keeps ⊢
      exact (comes flying).releaseUndocked flying _ grants keeps
  | forced flying =>
      obtain ⟨dockable, found, flies⟩ := orderly.dockable?_of_inFlight flying
      rw [fst_forceUndocked found flies] at grants ⊢
      exact (comes flying).settleUndocked flying _ grants
  | @refused target event root hooks hovers release onlyShows refuses =>
      rw [targetEvent_of_meansRelease root hovers release] at grants keeps ⊢
      exact putDown_dock orderly tidy hovers.1 onlyShows (.inl refuses) root grants keeps
  | @notInserted target event root hooks hovers release onlyShows unmoved =>
      rw [targetEvent_of_meansRelease root hovers release] at grants keeps ⊢
      exact putDown_dock orderly tidy hovers.1 onlyShows (.inr unmoved) root grants keeps
  | notTornOut found undocked failed =>
      exact putDown_tearOut orderly tidy found undocked failed grants

end Recovery

/-- The dockable is registered as before, but rests in a window of its own and remembers nothing
of the flight; nobody is in flight, and the rest is as it was. -/
structure Recovered (before : Session) (node : NodeId) (after : Session) : Prop where
  dockable : ∃ dockable window, before.dockable? node = some dockable ∧
    after.dockable? node = some (dockable.putDown window) ∧
    after.desktop.hasWindow window = true ∧ after.tree.window? node = some window ∧
    after.dockableForWindow? window = some node
  contains : after.tree.contains node = true
  root : after.tree.parent? node = none
  inFlight_eq : after.inFlight = none
  cursor_eq : after.desktop.cursor = none
  dockable?_eq : ∀ other, other ≠ node → after.dockable? other = before.dockable? other
  mooring?_eq : ∀ other, other ≠ node →
    after.tree.mooring? other = before.tree.mooring? other
  children_eq : ∀ other, after.tree.children other = before.tree.children other

theorem PutDown.recovered {made : List WindowId} {bound : Nat}
    (putDown : PutDown ⟨fun window => window ∉ made, bound⟩ session node after)
    (cursor_eq : after.desktop.cursor = none) : Recovered session node after := by
  obtain ⟨⟨dockable, window, found, rested, attends⟩, leaves, inFlight_eq⟩ := putDown
  have settled := (attends.tidy rfl).settled
  have present : after.tree.contains node = true := by
    rw [Tree.contains_eq_isSome, attends.hosts.mooring?_eq]
    rfl
  refine ⟨⟨dockable, window, found, rested, ?_, ?_, ?_⟩, present, leaves.root, inFlight_eq,
    cursor_eq, leaves.dockable?_eq, attends.hosts.elsewhere, leaves.children_eq⟩
  · exact settled.hasWindow node _ window rested rfl
  · exact settled.window?_eq node _ rested present
  · exact (settled.dockableForWindow?_iff window node).mpr ⟨_, rested, rfl⟩

/-- Whichever way a flight ends without docking, the dockable recovers, unless its window cannot
be opened or it is not to be kept. -/
theorem fallback_recovers {capabilities : Capabilities} {settings : Settings}
    (careful : Careful capabilities settings session) (fallback : session.Fallback node after)
    (grants : session.desktop.Grants after.desktop)
    (keeps : after.desktop.questions ≠ session.desktop.questions →
      session.desktop.confirmAnswer = true) : Recovered session node after := by
  obtain ⟨made, balanced⟩ := careful.balanced
  have orderly := balanced.orderly
  have putDown := fallback.putDown orderly balanced.tidy grants keeps
  obtain ⟨operation, rfl, inhouse⟩ := fallback.performed
  have pictured := careful.pictured.deeds (deeds_perform orderly inhouse)
  exact putDown.recovered (cursor_eq_none pictured (orderly.perform operation)
    putDown.inFlight_eq)

/-- The panel does not insert the dockable after all, which has no window while it is in
flight. -/
theorem recovered_overStage :
    let hooks := { Hooks.welcoming with insert := some fun _ _ _ => [] }
    let after := (overStage.targetEvent ⟨0⟩ (.dockRelease .zero) hooks).session
    Recovered overStage ⟨1⟩ after ∧
      (overStage.dockable? ⟨1⟩).bind Dockable.window = none ∧
      (after.dockable? ⟨1⟩).bind Dockable.window = some ⟨2⟩ := by
  have onlyShows {insert} : Hooks.OnlyShows { Hooks.welcoming with insert } := by
    intro feedback given
    cases given
    exact fun _ _ _ => rfl
  have standard : Hooks.Standard .welcoming := ⟨onlyShows, .inl rfl, .inl rfl⟩
  have careful : Careful .none .standard overStage := by
    unfold overStage
    simp only [run_cons, run_nil]
    refine .step (.step (.step (.step .start ?_ nofun) ?_ nofun) ?_ nofun) standard nofun
    · exact .inr fun _ subject => nomatch subject
    · trivial
    · trivial
  have hovers : overStage.HoversOver ⟨1⟩ ⟨0⟩ := ⟨rfl, _, rfl, rfl, rfl⟩
  refine ⟨fallback_recovers careful (.notInserted hovers (.inr rfl) onlyShows rfl)
    (fun _ _ _ _ => rfl) fun _ => rfl, rfl, rfl⟩

end Docking.Session

import Docking.Proofs.Flight.Release
import Docking.Proofs.Session.Housing
import Docking.Proofs.Window.Ledger

namespace Docking

/-! A dockable that is put down comes to rest in a window of its own, and nothing else is
moved. Only a window that cannot be opened may be missing. -/

namespace Desktop

def Refuses (before after : Desktop) : Prop :=
  ∃ descriptor report, after.requests = before.requests ++ [.createWindow descriptor] ∧
    before.faults (.createWindow descriptor) before.requests = some report

/-- If the last request made in between is for a window, it succeeds. -/
def Grants (before after : Desktop) : Prop :=
  ∀ earlier descriptor, before.requests <+: earlier →
    after.requests = earlier ++ [.createWindow descriptor] →
    before.faults (.createWindow descriptor) earlier = none

theorem Grants.of_requests_eq {before middle after : Desktop} (grants : Grants before after)
    (same : middle.requests = after.requests) : Grants before middle := by
  intro earlier descriptor known asked
  exact grants earlier descriptor known (same.symm.trans asked)

theorem Grants.not_refuses {before middle after : Desktop} (grants : Grants before after)
    (steady : Steady before middle) : ¬ Refuses middle after := by
  rintro ⟨descriptor, report, asked, failed⟩
  have succeeds := grants _ descriptor steady.requests_prefix asked
  rw [steady.faults_eq, succeeds] at failed
  cases failed

theorem requests_confirm (desktop : Desktop) (title message : String) :
    (desktop.confirm title message).1.requests = desktop.requests :=
  rfl

theorem exchange_confirm (desktop : Desktop) (title message : String) :
    Exchange none none desktop (desktop.confirm title message).1 :=
  .of_same (fun _ => rfl) rfl

theorem refuses_createWindow {desktop : Desktop} {descriptor : WindowDescriptor}
    {error : DesktopError} (failed : (desktop.createWindow descriptor).2 = .error error) :
    Refuses desktop (desktop.createWindow descriptor).1 := by
  unfold createWindow attempt at failed ⊢
  cases refused : desktop.faults (.createWindow descriptor) desktop.requests with
  | some report => exact ⟨descriptor, report, rfl, refused⟩
  | none =>
      rw [refused] at failed
      cases failed

end Desktop

namespace Carrier

variable (carrier : Carrier) (scene : Scene) (settings : Settings) (node : NodeId)

theorem window_takeWindow (position : Option Point) :
    (carrier.takeWindow scene settings node position).carrier.window.isSome = true ∨
      Desktop.Refuses scene.desktop
        (carrier.takeWindow scene settings node position).scene.desktop := by
  unfold takeWindow Scene.openWindow
  dsimp only
  have refused := @Desktop.refuses_createWindow scene.desktop (.borderless settings.windowTitle
    position (.ofPoint ((scene.tree.layout? node).getD .zero).extent))
  generalize scene.desktop.createWindow _ = created at refused ⊢
  obtain ⟨desktop, result⟩ := created
  cases result with
  | error error => exact .inr (refused rfl)
  | ok window => exact .inl rfl

theorem window_settle (root : Point) :
    (carrier.settle scene settings node root).carrier.window.isSome = true ∨
      Desktop.Refuses scene.desktop (carrier.settle scene settings node root).scene.desktop := by
  unfold settle
  split
  · next owns => exact .inl (Bool.and_eq_true _ _ ▸ owns).1
  · exact carrier.window_takeWindow scene settings node _

/-! ### The kind of a carrier never changes -/

@[simp] theorem kind_dropWindow : (carrier.dropWindow scene node).1.kind = carrier.kind := by
  unfold dropWindow
  split <;> rfl

@[simp] theorem kind_clearCursor : (carrier.clearCursor scene).1.kind = carrier.kind := by
  unfold clearCursor
  split
  · next means => simp only [kind, means]
  · rfl

@[simp] theorem kind_takeWindow (position : Option Point) :
    (carrier.takeWindow scene settings node position).carrier.kind = carrier.kind := by
  unfold takeWindow
  split <;> rfl

theorem kind_settle (root : Point) :
    (carrier.settle scene settings node root).carrier.kind = carrier.kind := by
  unfold settle
  split
  · rfl
  · exact carrier.kind_takeWindow scene settings node _

theorem kind_beforeDock : (carrier.beforeDock scene node).1.kind = carrier.kind :=
  (kind_dropWindow _ _ node).trans (carrier.kind_clearCursor scene)

theorem kind_undock (root grab : Point) :
    (carrier.undock scene settings node root grab).carrier.kind = carrier.kind := by
  unfold undock
  split
  · next means =>
      refine ((kind_takeWindow _ _ settings node _).trans (kind_dropWindow _ scene node)).trans ?_
      simp only [kind, means]
  · next means =>
      dsimp only
      split
      · simp only [kind_takeWindow, kind_dropWindow]
      · split
        · simp only [kind_takeWindow, kind_dropWindow]
        · simp only [kind, means]
  · next means => simp only [kind, means]

theorem fst_afterRelease :
    (carrier.afterRelease scene).1 = ⟨(new carrier.kind).means, carrier.window⟩ := by
  have cleared : (carrier.clearCursor scene).1.window = carrier.window := by
    unfold clearCursor
    split <;> rfl
  unfold afterRelease
  split
  · next means => simp only [kind, new, means]
  · next means => simp only [kind, new, means]
  · next means => simp only [kind, new, means, cleared]

theorem requests_afterRelease :
    (carrier.afterRelease scene).2.desktop.requests = scene.desktop.requests := by
  have cleared : (carrier.clearCursor scene).2.desktop.requests = scene.desktop.requests := by
    unfold clearCursor
    split <;> rfl
  unfold afterRelease
  split
  · rfl
  · rfl
  · exact cleared

end Carrier

/-- A dockable as it is when it rests in a window of its own, free of whatever belongs to a
flight or a press. -/
def Dockable.putDown (dockable : Dockable) (window : WindowId) : Dockable :=
  { dockable with
    phase := .undocked
    activeTarget := none
    originTarget := none
    press := none
    carrier := ⟨(Carrier.new dockable.carrier.kind).means, some window⟩ }

theorem Dockable.putDown_carrier (dockable : Dockable) {carrier : Carrier}
    (kind_eq : carrier.kind = dockable.carrier.kind) :
    { dockable with carrier }.putDown = dockable.putDown := by
  funext window
  simp only [putDown, kind_eq]

theorem Dockable.withPhase_undocked (dockable : Dockable) (aimless : dockable.activeTarget = none)
    (settled : dockable.originTarget = none) (window : WindowId) :
    Dockable.withPhase { dockable with
        carrier := ⟨(Carrier.new dockable.carrier.kind).means, some window⟩ } .undocked =
      dockable.putDown window := by
  obtain ⟨handle, phase, styles, activeTarget, originTarget, press, carrier⟩ := dockable
  cases aimless
  cases settled
  rfl

namespace Session

variable {session : Session} {node : NodeId}

/-! ### What is recorded of a dockable that is put down -/

theorem dockable?_withCarrier {dockable : Dockable}
    (found : session.dockable? node = some dockable)
    (action : Carrier → Scene → Carrier × Scene) :
    (session.withCarrier node action).dockable? node =
      some { dockable with carrier := (action dockable.carrier session.toScene).1 } := by
  unfold withCarrier
  rw [found]
  dsimp only
  rw [dockable?_update, if_pos rfl]
  exact congrArg (Option.map _) found

theorem dockable?_tryCarrier {dockable : Dockable}
    (found : session.dockable? node = some dockable)
    (action : Carrier → Scene → Carrier.Outcome (Except DesktopError Unit)) :
    (session.tryCarrier node action).1.dockable? node =
      some { dockable with carrier := (action dockable.carrier session.toScene).carrier } := by
  unfold tryCarrier
  rw [found]
  dsimp only
  rw [dockable?_update, if_pos rfl]
  exact congrArg (Option.map _) found

theorem dockable?_comeToRest {dockable : Dockable} (found : session.dockable? node = some dockable)
    (root : Point) :
    (∃ window, ((session.settleCarrier node root).withCarrier node
        Carrier.afterRelease).dockable? node = some { dockable with
          carrier := ⟨(Carrier.new dockable.carrier.kind).means, some window⟩ }) ∨
      Desktop.Refuses session.desktop
        ((session.settleCarrier node root).withCarrier node Carrier.afterRelease).desktop := by
  have settled := dockable.carrier.window_settle session.toScene session.settings node root
  have kind_eq := dockable.carrier.kind_settle session.toScene session.settings node root
  have known := dockable?_tryCarrier found fun carrier scene =>
    carrier.settle scene session.settings node root
  have left : (session.settleCarrier node root).desktop =
      (dockable.carrier.settle session.toScene session.settings node root).scene.desktop := by
    unfold settleCarrier tryCarrier
    rw [found]
    rfl
  unfold settleCarrier at left ⊢
  rcases settled with owns | ⟨descriptor, report, asked, failed⟩
  · obtain ⟨window, window_eq⟩ := Option.isSome_iff_exists.mp owns
    refine .inl ⟨window, ?_⟩
    rw [dockable?_withCarrier known, Carrier.fst_afterRelease, window_eq, kind_eq]
  · refine .inr ⟨descriptor, report, ?_, failed⟩
    rw [← left] at asked
    unfold withCarrier
    rw [known]
    exact (Carrier.requests_afterRelease _ _).trans asked

theorem dockable?_leaveActiveTarget {dockable : Dockable}
    (found : session.dockable? node = some dockable) :
    (session.leaveActiveTarget node).dockable? node =
      some { dockable with activeTarget := none } := by
  unfold leaveActiveTarget
  rw [found]
  dsimp only [Option.bind_some]
  cases active : dockable.activeTarget with
  | none =>
      rw [found]
      exact congrArg some (by rw [← active])
  | some target =>
      exact (dockable?_update session node _ node).trans ((if_pos rfl).trans (by rw [found]; rfl))

theorem dockable?_settleUndocked {dockable : Dockable}
    (found : session.dockable? node = some dockable) (root : Point) :
    (∃ window, (session.settleUndocked node root).dockable? node =
        some (dockable.putDown window)) ∨
      Desktop.Refuses session.desktop (session.settleUndocked node root).desktop := by
  have settled := dockable?_comeToRest (dockable?_leaveActiveTarget found) root
  have kept : (session.leaveActiveTarget node).desktop = session.desktop := by
    unfold leaveActiveTarget
    split <;> rfl
  rw [kept] at settled
  unfold settleUndocked
  dsimp only
  generalize ((session.leaveActiveTarget node).settleCarrier node root).withCarrier node
    Carrier.afterRelease = rested at settled ⊢
  have entered := (rested.update node fun dockable =>
    { dockable with originTarget := none }).dockable?_enterPhase node .undocked
  have desktop_eq := (rested.update node fun dockable =>
    { dockable with originTarget := none }).desktop_enterPhase node .undocked
  rcases settled with ⟨window, known⟩ | refused
  · left
    rw [dockable?_update, if_pos rfl, known] at entered
    refine ⟨window, ?_⟩
    split
    · exact entered
    · exact entered
  · right
    rw [show rested.desktop = _ from desktop_eq.symm] at refused
    split
    · exact refused
    · exact refused

/-! ### What is left alone -/

variable {before after : Session}

/-- All other dockables are as they were, and a root has not taken anything with it. -/
structure LeavesOthers (node : NodeId) (before after : Session) : Prop where
  root : after.tree.parent? node = none
  dockable?_eq : ∀ other, other ≠ node → after.dockable? other = before.dockable? other
  children_eq : ∀ other, after.tree.children other = before.tree.children other

namespace LeavesOthers

theorem refl (rooted : session.tree.parent? node = none) : LeavesOthers node session session :=
  ⟨rooted, fun _ _ => rfl, fun _ => rfl⟩

theorem rehouse (leaves : LeavesOthers node before after) {scene : Scene}
    (rehouses : Tree.Rehouses node after.tree scene.tree) :
    LeavesOthers node before { after with toScene := scene } where
  root := rehouses.parent?_eq_none leaves.root
  dockable?_eq := leaves.dockable?_eq
  children_eq other := (rehouses.children_eq leaves.root other).trans (leaves.children_eq other)

theorem notify (leaves : LeavesOthers node before after) (target : NodeId) (event : Event) :
    LeavesOthers node before (after.notify target event) :=
  ⟨leaves.root, leaves.dockable?_eq, leaves.children_eq⟩

theorem update (leaves : LeavesOthers node before after) (change : Dockable → Dockable) :
    LeavesOthers node before (after.update node change) where
  root := leaves.root
  dockable?_eq other different := by
    rw [dockable?_update, if_neg different]
    exact leaves.dockable?_eq other different
  children_eq := leaves.children_eq

theorem enterPhase (leaves : LeavesOthers node before after) (phase : Phase) :
    LeavesOthers node before (after.enterPhase node phase) := by
  have entered := leaves.update fun dockable => dockable.withPhase phase
  unfold Session.enterPhase repaint
  split
  · exact entered
  · next dockable _ =>
      have same := dockable.sameLinks_paint node after.tree
      exact ⟨(same.parent?_eq node).trans entered.root, entered.dockable?_eq,
        fun other => (same.children_eq other).trans (entered.children_eq other)⟩

theorem withCarrier (leaves : LeavesOthers node before after)
    {action : Carrier → Scene → Carrier × Scene}
    (rehouses : ∀ carrier,
      Tree.Rehouses node after.tree (action carrier after.toScene).2.tree) :
    LeavesOthers node before (after.withCarrier node action) := by
  unfold Session.withCarrier
  split
  · exact leaves
  · exact (leaves.rehouse (rehouses _)).update _

theorem tryCarrier (leaves : LeavesOthers node before after)
    {action : Carrier → Scene → Carrier.Outcome (Except DesktopError Unit)}
    (rehouses : ∀ carrier,
      Tree.Rehouses node after.tree (action carrier after.toScene).scene.tree) :
    LeavesOthers node before (after.tryCarrier node action).1 := by
  unfold Session.tryCarrier
  split
  · exact leaves
  · exact (leaves.rehouse (rehouses _)).update _

variable (leaves : LeavesOthers node before after)
include leaves

theorem beforeDock :
    LeavesOthers node before
      (after.withCarrier node fun carrier scene => carrier.beforeDock scene node) :=
  leaves.withCarrier fun carrier => carrier.rehouses_beforeDock after.toScene node

theorem comeToRest (root : Point) :
    LeavesOthers node before
      ((after.settleCarrier node root).withCarrier node Carrier.afterRelease) := by
  have settled : LeavesOthers node before (after.settleCarrier node root) :=
    leaves.tryCarrier fun carrier =>
      carrier.rehouses_settle after.toScene after.settings node root
  refine settled.withCarrier fun carrier => ?_
  rw [Carrier.tree_afterRelease]
  exact .refl

theorem settleUndocked (root : Point) :
    LeavesOthers node before (after.settleUndocked node root) := by
  have left : LeavesOthers node before (after.leaveActiveTarget node) := by
    unfold leaveActiveTarget
    split
    · exact leaves
    · exact (leaves.update _).notify _ _
  have rested := ((left.comeToRest root).update fun dockable =>
    { dockable with originTarget := none }).enterPhase .undocked
  unfold Session.settleUndocked
  dsimp only
  split
  · exact ⟨rested.root, rested.dockable?_eq, rested.children_eq⟩
  · exact rested

theorem undoTearOut (layout : Rect) (root : Point) :
    LeavesOthers node before (after.undoTearOut node layout none root) :=
  (leaves.beforeDock.comeToRest root).enterPhase .undocked

end LeavesOthers

/-! ### The dockable is put down -/

theorem releaseUndocked_eq (root : Point)
    (keeps : (session.releaseUndocked node root).desktop.questions ≠ session.desktop.questions →
      session.desktop.confirmAnswer = true) :
    ∃ desktop, session.releaseUndocked node root =
        { session.settleUndocked node root with desktop } ∧
      desktop.requests = (session.settleUndocked node root).desktop.requests ∧
      Desktop.Exchange none none (session.settleUndocked node root).desktop desktop := by
  have asked := session.questions_releaseUndocked node root
  have settling := session.steady_settleUndocked node root
  cases asks : session.settings.confirmOnRelease with
  | false =>
      rw [← settling.settings_eq] at asks
      refine ⟨(session.settleUndocked node root).desktop, ?_, rfl, .refl _⟩
      unfold releaseUndocked
      exact if_neg (ne_true_of_eq_false asks)
  | true =>
      have answer : (session.settleUndocked node root).desktop.confirmAnswer = true := by
        refine settling.desktop.confirmAnswer_eq.trans (keeps fun same => ?_)
        rw [asked, asks] at same
        exact List.cons_ne_nil _ _ (List.append_right_eq_self.mp same)
      refine ⟨_, ?_, Desktop.requests_confirm _ session.settings.confirmTitle
        session.settings.confirmMessage, Desktop.exchange_confirm _ _ _⟩
      unfold releaseUndocked
      dsimp only
      rw [settling.settings_eq, asks, if_pos rfl]
      exact if_pos answer

theorem inFlight_settleUndocked (flying : session.inFlight = some node) (root : Point) :
    (session.settleUndocked node root).inFlight = none := by
  have settled := congrArg Flight.inFlight (session.flight_settleUndocked node root)
  exact settled.trans
    (Flight.inFlight_make_of_endsFlight (show Flight.Turn.EndsFlight node (.settle node) from rfl)
      flying)

structure ComesDown (survey : Survey) (before : Session) (node : NodeId) (session : Session) :
    Prop where
  attends : ∃ window, Attends survey before.tree.mooring? node false none window session
  known : ∃ earlier now, before.dockable? node = some earlier ∧
    session.dockable? node = some now ∧ now.putDown = earlier.putDown
  steady : Steady before session
  leaves : LeavesOthers node before session
  inFlight_eq : session.inFlight = before.inFlight

structure PutDown (survey : Survey) (before : Session) (node : NodeId) (session : Session) :
    Prop where
  attends : ∃ dockable window, before.dockable? node = some dockable ∧
    session.dockable? node = some (dockable.putDown window) ∧
    Attends survey before.tree.mooring? node false none (some window) session
  leaves : LeavesOthers node before session
  inFlight_eq : session.inFlight = none

variable {survey : Survey}

theorem Attends.window_eq {moorings : NodeId → Option Mooring} {window : Option WindowId}
    (attends : Attends survey moorings node false none window session) {dockable : Dockable}
    (found : session.dockable? node = some dockable) : dockable.window = window := by
  have lodged := attends.lodged
  rw [lodgings_of_dockable? found, Dockable.lodging, Option.some.injEq, Lodging.mk.injEq] at lodged
  exact lodged.2

namespace ComesDown

theorem refl {window : Option WindowId}
    (attends : Attends survey session.tree.mooring? node false none window session) :
    ComesDown survey session node session := by
  obtain ⟨dockable, found, _⟩ := attends.dockable?
  exact ⟨⟨window, attends⟩, ⟨dockable, dockable, found, found, rfl⟩, .refl session,
    .refl attends.hosts.parent?_eq, rfl⟩

variable (comes : ComesDown survey before node session)
include comes

theorem update (change : Dockable → Dockable)
    (lodging_eq : ∀ dockable, (change dockable).lodging = dockable.lodging)
    (putDown_eq : ∀ dockable, (change dockable).putDown = dockable.putDown) :
    ComesDown survey before node (session.update node change) := by
  obtain ⟨window, attends⟩ := comes.attends
  obtain ⟨earlier, now, found, known, same⟩ := comes.known
  refine ⟨⟨window, attends.update change lodging_eq⟩,
    ⟨earlier, change now, found, ?_, (putDown_eq now).trans same⟩,
    comes.steady.trans (session.steady_update node change), comes.leaves.update change,
    comes.inFlight_eq⟩
  rw [dockable?_update, if_pos rfl, known]
  rfl

theorem beforeDock :
    ComesDown survey before node
      (session.withCarrier node fun carrier scene => carrier.beforeDock scene node) := by
  obtain ⟨window, attends⟩ := comes.attends
  obtain ⟨earlier, now, found, known, same⟩ := comes.known
  refine ⟨⟨none, attends.beforeDock⟩, ⟨earlier, _, found, dockable?_withCarrier known _, ?_⟩,
    comes.steady.trans (session.steady_beforeDock node), comes.leaves.beforeDock, ?_⟩
  · exact (now.putDown_carrier (now.carrier.kind_beforeDock _ node)).trans same
  · exact (congrArg Flight.inFlight (session.flight_withCarrier node _)).trans comes.inFlight_eq

theorem undock (root grab : Point) :
    ComesDown survey before node (session.tryCarrier node fun carrier scene =>
      carrier.undock scene session.settings node root grab).1 := by
  obtain ⟨window, attends⟩ := comes.attends
  obtain ⟨earlier, now, found, known, same⟩ := comes.known
  refine ⟨attends.undock root grab, ⟨earlier, _, found, dockable?_tryCarrier known _, ?_⟩,
    comes.steady.trans (session.steady_tryCarrier node fun carrier => ?_),
    comes.leaves.tryCarrier fun carrier => ?_, ?_⟩
  · exact (now.putDown_carrier (now.carrier.kind_undock _ _ node root grab)).trans same
  · exact carrier.steady_undock session.toScene session.settings node root grab
  · exact carrier.rehouses_undock session.toScene session.settings node root grab
  · exact (congrArg Flight.inFlight (session.flight_tryCarrier node _)).trans comes.inFlight_eq

theorem settleUndocked (flying : before.inFlight = some node) (root : Point)
    (grants : before.desktop.Grants (session.settleUndocked node root).desktop) :
    PutDown survey before node (session.settleUndocked node root) := by
  obtain ⟨window, attends⟩ := comes.attends
  obtain ⟨earlier, now, found, known, same⟩ := comes.known
  obtain ⟨kept, settled⟩ := attends.rest root
  have owned := dockable?_settleUndocked known root
  obtain ⟨shown, rested⟩ := owned.resolve_right (grants.not_refuses comes.steady.desktop)
  rw [same] at rested
  cases settled.window_eq rested
  exact ⟨⟨earlier, shown, found, rested, settled⟩, comes.leaves.settleUndocked root,
    inFlight_settleUndocked (comes.inFlight_eq.trans flying) root⟩

theorem releaseUndocked (flying : before.inFlight = some node) (root : Point)
    (grants : before.desktop.Grants (session.releaseUndocked node root).desktop)
    (keeps : (session.releaseUndocked node root).desktop.questions ≠ before.desktop.questions →
      before.desktop.confirmAnswer = true) :
    PutDown survey before node (session.releaseUndocked node root) := by
  have steady := comes.steady.desktop
  rw [← steady.questions_eq, ← steady.confirmAnswer_eq] at keeps
  obtain ⟨desktop, released_eq, requests_eq, exchange⟩ := releaseUndocked_eq root keeps
  rw [released_eq] at grants ⊢
  obtain ⟨⟨earlier, shown, found, rested, settled⟩, leaves, inFlight_eq⟩ :=
    comes.settleUndocked flying root (grants.of_requests_eq requests_eq.symm)
  exact ⟨⟨earlier, shown, found, rested, settled.request exchange⟩, leaves.rehouse .refl,
    inFlight_eq⟩

theorem undoTearOut (resting : before.inFlight = none)
    (free : ∀ now, session.dockable? node = some now →
      now.activeTarget = none ∧ now.originTarget = none)
    (layout : Rect) (root : Point)
    (grants : before.desktop.Grants (session.undoTearOut node layout none root).desktop) :
    PutDown survey before node (session.undoTearOut node layout none root) := by
  have leaves := comes.leaves.undoTearOut layout root
  have grounded := session.flight_undoTearOut node layout none root
  have freed := comes.beforeDock
  obtain ⟨_, now, _, known, _⟩ := comes.known
  have carried := dockable?_withCarrier known fun carrier scene => carrier.beforeDock scene node
  unfold Session.undoTearOut at grants leaves grounded ⊢
  dsimp only at grants leaves grounded ⊢
  generalize session.withCarrier node (fun carrier scene => carrier.beforeDock scene node) = left
    at freed carried grants leaves grounded ⊢
  obtain ⟨window, attends⟩ := freed.attends
  obtain ⟨earlier, held, found, refound, same⟩ := freed.known
  have kept : held.activeTarget = none ∧ held.originTarget = none := by
    rw [carried, Option.some.injEq] at refound
    rw [← refound]
    exact free now known
  obtain ⟨_, rested⟩ := attends.settleCarrier root
  have entered := dockable?_enterPhase ((left.settleCarrier node root).withCarrier node
    Carrier.afterRelease) node .undocked
  rw [desktop_enterPhase] at grants
  have owned := dockable?_comeToRest refound root
  obtain ⟨shown, owns⟩ := owned.resolve_right (grants.not_refuses freed.steady.desktop)
  rw [owns, Option.map_some, held.withPhase_undocked kept.1 kept.2, same] at entered
  have attended := rested.afterRelease.enterPhase .undocked
  cases attended.window_eq entered
  exact ⟨⟨earlier, shown, found, entered, attended⟩, leaves,
    (congrArg Flight.inFlight grounded).trans (comes.inFlight_eq.trans resting)⟩

end ComesDown

end Session
end Docking

import Docking.Proofs.Window.Fallback

namespace Docking

/-! What a carrier holds follows from the phase of its dockable. Each way into a flight and
each way out of it leaves the carrier with what the new phase calls for. -/

namespace Carrier

/-- Docked it owns no window. In flight it owns one unless a picture stands for the dockable,
and a compositor session runs as long as the flight. -/
structure Suits (phase : Phase) (carrier : Carrier) : Prop where
  docked : phase = .docked → carrier.window = none
  flying : phase.isInFlight = true → (carrier.window = none ↔ carrier.kind = .imageCursor)
  session : ∀ active, carrier.sessionActive? = some active → active = phase.isInFlight

def Idle (carrier : Carrier) : Prop := carrier.sessionActive? ≠ some true

structure Airborne (carrier : Carrier) : Prop where
  window_iff : carrier.window = none ↔ carrier.kind = .imageCursor
  session : carrier.sessionActive? ≠ some false

namespace Suits

variable {carrier : Carrier} {phase : Phase}

theorem of_flying (airborne : carrier.Airborne) (flying : phase.isInFlight = true) :
    carrier.Suits phase where
  docked same := by
    rw [same] at flying
    cases flying
  flying _ := airborne.window_iff
  session active runs := by
    cases active with
    | true => exact flying.symm
    | false => exact absurd runs airborne.session

theorem of_resting (idle : carrier.Idle) (resting : phase.isInFlight = false)
    (docked : phase = .docked → carrier.window = none) : carrier.Suits phase where
  docked := docked
  flying inFlight := nomatch resting.symm.trans inFlight
  session active runs := by
    cases active with
    | true => exact absurd runs idle
    | false => exact resting.symm

variable (suits : carrier.Suits phase)
include suits

theorem idle (resting : phase.isInFlight = false) : carrier.Idle :=
  fun runs => nomatch (suits.session true runs).trans resting

theorem airborne (flying : phase.isInFlight = true) : carrier.Airborne where
  window_iff := suits.flying flying
  session runs := nomatch (suits.session false runs).trans flying

end Suits

variable (carrier : Carrier) (scene : Scene) (settings : Settings) (node : NodeId)

/-! ### What becomes of a compositor session -/

@[simp] theorem sessionActive?_dropWindow :
    (carrier.dropWindow scene node).1.sessionActive? = carrier.sessionActive? := by
  unfold dropWindow
  split <;> rfl

@[simp] theorem sessionActive?_clearCursor :
    (carrier.clearCursor scene).1.sessionActive? = carrier.sessionActive? := by
  unfold clearCursor
  split
  · next means => simp only [sessionActive?, means]
  · rfl

@[simp] theorem sessionActive?_takeWindow (position : Option Point) :
    (carrier.takeWindow scene settings node position).carrier.sessionActive? =
      carrier.sessionActive? := by
  unfold takeWindow
  split <;> rfl

@[simp] theorem sessionActive?_beforeDock :
    (carrier.beforeDock scene node).1.sessionActive? = carrier.sessionActive? :=
  (sessionActive?_dropWindow _ _ node).trans (carrier.sessionActive?_clearCursor scene)

theorem idle_new (kind : CarrierKind) : (new kind).Idle := by
  cases kind <;> exact fun runs => nomatch runs

theorem idle_afterRelease : (carrier.afterRelease scene).1.Idle := by
  rw [fst_afterRelease]
  exact idle_new carrier.kind

theorem window_takeWindow_of_ok {position : Option Point} {window : WindowId}
    (opened : (carrier.takeWindow scene settings node position).result = .ok window) :
    (carrier.takeWindow scene settings node position).carrier.window = some window := by
  unfold takeWindow at opened ⊢
  split
  · next same =>
      rw [same] at opened
      cases opened
  · next same =>
      rw [same] at opened
      cases opened
      rfl

theorem airborne_undock {root grab : Point}
    (undocked : (carrier.undock scene settings node root grab).result = .ok ()) :
    (carrier.undock scene settings node root grab).carrier.Airborne := by
  cases means : carrier.means with
  | generic =>
      simp only [undock, means] at undocked ⊢
      generalize taking : takeWindow _ _ settings node _ = taken at undocked ⊢
      have kind_eq : taken.carrier.kind = .generic := by
        rw [← taking, kind_takeWindow, kind_dropWindow, kind]
      have session_eq : taken.carrier.sessionActive? = none := by
        rw [← taking, sessionActive?_takeWindow, sessionActive?_dropWindow, sessionActive?]
      cases opened : taken.result with
      | error error =>
          rw [opened] at undocked
          cases undocked
      | ok window =>
          rw [← taking] at opened
          have window_eq := window_takeWindow_of_ok _ _ settings node opened
          rw [taking] at window_eq
          constructor
          · simp [window_eq, kind_eq]
          · simp [session_eq]
  | compositor =>
      simp only [undock, means] at undocked ⊢
      generalize taking : takeWindow _ _ settings node _ = taken at undocked ⊢
      cases opened : taken.result with
      | error error =>
          rw [opened] at undocked
          cases undocked
      | ok window =>
          rw [← taking] at opened
          have window_eq := window_takeWindow_of_ok _ _ settings node opened
          rw [taking] at opened window_eq
          rw [opened] at undocked
          dsimp only at undocked ⊢
          split at undocked
          · cases undocked
          · constructor
            · simp [window_eq, kind]
            · simp [sessionActive?]
  | imageCursor grab shown =>
      simp only [undock, means]
      constructor
      · simp [kind]
      · simp [sessionActive?]

theorem idle_undock {root grab : Point} {error : DesktopError} (idle : carrier.Idle)
    (failed : (carrier.undock scene settings node root grab).result = .error error) :
    (carrier.undock scene settings node root grab).carrier.Idle := by
  cases means : carrier.means with
  | generic =>
      simp only [undock, means, Idle, sessionActive?_takeWindow, sessionActive?_dropWindow]
      exact nofun
  | compositor =>
      simp only [undock, means] at failed ⊢
      split
      · simpa [Idle] using idle
      · next opened =>
          rw [opened] at failed
          dsimp only at failed ⊢
          split at failed
          · simpa [Idle] using idle
          · cases failed
  | imageCursor =>
      simp only [undock, means] at failed
      cases failed

theorem idle_settle (idle : carrier.Idle) (root : Point) :
    (carrier.settle scene settings node root).carrier.Idle := by
  unfold settle
  split
  · exact idle
  · simpa [Idle] using idle

end Carrier

abbrev Dockable.Geared (dockable : Dockable) : Prop := dockable.carrier.Suits dockable.phase

namespace Session

variable {session : Session} {node : NodeId}

def Geared (session : Session) : Prop :=
  ∀ node dockable, session.dockable? node = some dockable → dockable.Geared

/-- The carriers of all dockables but `node` suit them; of that one, should it be a dockable,
something else is known. -/
structure Tends (known : Dockable → Prop) (node : NodeId) (session : Session) : Prop where
  attended : ∀ dockable, session.dockable? node = some dockable → known dockable
  others : ∀ other dockable, session.dockable? other = some dockable → other ≠ node →
    dockable.Geared

theorem Geared.congr (geared : session.Geared) {after : Session}
    (dockables_eq : after.dockables = session.dockables) : after.Geared := by
  intro node dockable found
  rw [dockable?, dockables_eq] at found
  exact geared node dockable found

theorem Geared.attend (geared : session.Geared) (node : NodeId) :
    Tends Dockable.Geared node session :=
  ⟨geared node, fun other dockable found _ => geared other dockable found⟩

def Tried (result : Except DesktopError Unit) (dockable : Dockable) : Prop :=
  match result with
  | .ok () => dockable.carrier.Airborne
  | .error _ => dockable.isInFlight = false ∧ dockable.carrier.Idle

namespace Tends

theorem dismiss (tends : Tends Dockable.Geared node session) : session.Geared := by
  intro other dockable found
  by_cases same : other = node
  · subst same
    exact tends.attended dockable found
  · exact tends.others other dockable found same

variable {known : Dockable → Prop} (tends : Tends known node session)
include tends

theorem mono {weaker : Dockable → Prop}
    (weakens : ∀ dockable, known dockable → weaker dockable) :
    Tends weaker node session :=
  ⟨fun dockable found => weakens dockable (tends.attended dockable found), tends.others⟩

theorem congr {after : Session} (dockables_eq : after.dockables = session.dockables) :
    Tends known node after := by
  have same (other : NodeId) : after.dockable? other = session.dockable? other :=
    congrArg (Table.get? · other) dockables_eq
  constructor
  · intro dockable found
    exact tends.attended dockable ((same node).symm.trans found)
  · intro other dockable found
    exact tends.others other dockable ((same other).symm.trans found)

theorem update {next : Dockable → Prop} {change : Dockable → Dockable}
    (changes : ∀ dockable, known dockable → next (change dockable)) :
    Tends next node (session.update node change) := by
  constructor
  · intro dockable found
    rw [dockable?_update, if_pos rfl] at found
    obtain ⟨earlier, foundEarlier, rfl⟩ := Option.map_eq_some_iff.mp found
    exact changes earlier (tends.attended earlier foundEarlier)
  · intro other dockable found apart
    rw [dockable?_update, if_neg apart] at found
    exact tends.others other dockable found apart

theorem enterPhase {next : Dockable → Prop} {phase : Phase}
    (enters : ∀ dockable, known dockable → next (dockable.withPhase phase)) :
    Tends next node (session.enterPhase node phase) := by
  have entered := tends.update enters
  unfold Session.enterPhase repaint
  split
  · exact entered
  · exact entered.congr rfl

theorem pin {dockable : Dockable} (found : session.dockable? node = some dockable) :
    Tends (· = dockable) node session :=
  ⟨fun _ refound => Option.some.inj (refound.symm.trans found), tends.others⟩

theorem act {next : Dockable → Prop} {dockable : Dockable}
    (found : session.dockable? node = some dockable) {carrier : Carrier} {scene : Scene}
    (acted : next { dockable with carrier }) :
    Tends next node ({ session with toScene := scene }.update node fun dockable =>
      { dockable with carrier }) := by
  have alone : Tends (· = dockable) node { session with toScene := scene } :=
    (tends.pin found).congr rfl
  refine alone.update fun same equal => ?_
  rw [equal]
  exact acted

theorem withCarrier {next : Dockable → Prop} {action : Carrier → Scene → Carrier × Scene}
    (acts : ∀ dockable scene, known dockable →
      next { dockable with carrier := (action dockable.carrier scene).1 }) :
    Tends next node (session.withCarrier node action) := by
  unfold Session.withCarrier
  split
  · next unknown =>
      refine ⟨fun dockable found => ?_, tends.others⟩
      rw [unknown] at found
      cases found
  · next dockable found =>
      exact tends.act found (acts dockable session.toScene (tends.attended dockable found))

theorem tryCarrier {next : Except DesktopError Unit → Dockable → Prop}
    {action : Carrier → Scene → Carrier.Outcome (Except DesktopError Unit)}
    (acts : ∀ dockable, known dockable → next (action dockable.carrier session.toScene).result
      { dockable with carrier := (action dockable.carrier session.toScene).carrier })
    {attempted : Session} {result : Except DesktopError Unit}
    (tried : session.tryCarrier node action = (attempted, some result)) :
    Tends (next result) node attempted := by
  unfold Session.tryCarrier at tried
  split at tried
  · cases tried
  · next dockable found =>
      cases tried
      exact tends.act found (acts dockable (tends.attended dockable found))

omit tends in
theorem settleCarrier (root : Point)
    (tends : Tends (fun dockable => dockable.phase = .undocked ∧ dockable.carrier.Idle) node
      session) :
    Tends (fun dockable => dockable.phase = .undocked ∧ dockable.carrier.Idle) node
      (session.settleCarrier node root) := by
  unfold Session.settleCarrier Session.tryCarrier
  split
  · exact tends
  · next dockable found =>
      obtain ⟨undocked, idle⟩ := tends.attended dockable found
      exact tends.act found ⟨undocked, dockable.carrier.idle_settle _ _ node idle root⟩

theorem comeToRest (root : Point) :
    Tends (fun dockable => dockable.carrier.Idle) node
      ((session.settleCarrier node root).withCarrier node Carrier.afterRelease) := by
  have settled : Tends (fun _ => True) node (session.settleCarrier node root) := by
    unfold Session.settleCarrier Session.tryCarrier
    split
    · exact tends.mono fun _ _ => trivial
    · next dockable found => exact tends.act found trivial
  exact settled.withCarrier fun dockable scene _ => dockable.carrier.idle_afterRelease scene

theorem undock (idle : ∀ dockable, known dockable → dockable.carrier.Idle) :
    (session.enterPhase node .undocked).Geared := by
  have entered : Tends Dockable.Geared node
      (session.enterPhase node .undocked) :=
    tends.enterPhase fun dockable known => .of_resting (idle dockable known) rfl nofun
  exact entered.dismiss

/-! ### Ways out of a flight -/

theorem settleUndocked (root : Point) : (session.settleUndocked node root).Geared := by
  have left : Tends (fun _ => True) node (session.leaveActiveTarget node) := by
    unfold leaveActiveTarget
    split
    · exact tends.mono fun _ _ => trivial
    · next target _ =>
        have aimless : Tends (fun _ => True) node
            (session.update node fun dockable => { dockable with activeTarget := none }) :=
          tends.update fun _ _ => trivial
        exact aimless.congr rfl
  have rested : Tends (fun dockable => dockable.carrier.Idle) node
      ((((session.leaveActiveTarget node).settleCarrier node root).withCarrier node
        Carrier.afterRelease).update node fun dockable => { dockable with originTarget := none }) :=
    (left.comeToRest root).update fun _ idle => idle
  have geared := rested.undock fun _ => id
  unfold Session.settleUndocked
  dsimp only
  split
  · exact geared.congr rfl
  · exact geared

theorem undoTearOut (resting : ∀ dockable, known dockable →
      dockable.isInFlight = false ∧ dockable.carrier.Idle)
    (layout : Rect) (former : Option (NodeId × Nat)) (root : Point) :
    (session.undoTearOut node layout former root).Geared := by
  have grounded : Tends Dockable.Geared node
      (session.withCarrier node fun carrier scene => carrier.beforeDock scene node) := by
    refine tends.withCarrier fun dockable scene known => ?_
    obtain ⟨resting, idle⟩ := resting dockable known
    refine .of_resting ?_ resting fun _ => dockable.carrier.window_beforeDock scene node
    rw [Carrier.Idle, Carrier.sessionActive?_beforeDock]
    exact idle
  unfold Session.undoTearOut
  cases former with
  | some slot => exact (grounded.dismiss).congr rfl
  | none => exact (grounded.comeToRest root).undock fun _ => id

end Tends

namespace Geared

variable (geared : session.Geared)
include geared

theorem update (node : NodeId) (change : Dockable → Dockable)
    (carrier_eq : ∀ dockable, (change dockable).carrier = dockable.carrier)
    (phase_eq : ∀ dockable, (change dockable).phase = dockable.phase) :
    (session.update node change).Geared := by
  have changed : Tends Dockable.Geared node
      (session.update node change) := by
    refine (geared.attend node).update fun dockable suits => ?_
    rw [Dockable.Geared, carrier_eq, phase_eq]
    exact suits
  exact changed.dismiss

theorem aim {dockable : Dockable} (found : session.dockable? node = some dockable)
    (flying : dockable.isInFlight = true) {phase : Phase} (still : phase.isInFlight = true) :
    (session.enterPhase node phase).Geared := by
  have airborne := (geared node dockable found).airborne flying
  have entered : Tends Dockable.Geared node (session.enterPhase node phase) := by
    refine ((geared.attend node).pin found).enterPhase fun same equal => ?_
    rw [equal]
    exact .of_flying airborne still
  exact entered.dismiss

theorem beginDrag {dockable : Dockable} (found : session.dockable? node = some dockable)
    (resting : dockable.isInFlight = false) (tearOut : TearOut) :
    (session.beginDrag node tearOut).1.Geared := by
  have idle := (geared node dockable found).idle resting
  have freed : Tends (fun dockable => dockable.isInFlight = false ∧ dockable.carrier.Idle) node
      { session with tree := (session.tree.detach node).1 } := by
    refine (((geared.attend node).pin found).mono fun same equal => ?_).congr rfl
    rw [equal]
    exact ⟨resting, idle⟩
  have flown {attempted : Session} {result : Except DesktopError Unit}
      (tried : session.attemptFlight node tearOut = (attempted, some result)) :
      Tends (Tried result) node attempted := by
    refine freed.tryCarrier (fun dockable known => ?_) tried
    generalize came : (dockable.carrier.undock _ session.settings node _ _).result = result
    cases result with
    | ok => exact dockable.carrier.airborne_undock _ _ node came
    | error error => exact ⟨known.1, dockable.carrier.idle_undock _ _ node known.2 came⟩
  have begun := session.dragBegun_beginDrag node tearOut
  generalize session.beginDrag node tearOut = outcome at begun ⊢
  cases begun with
  | declined hindered => exact geared
  | unknown alone missing => cases missing.symm.trans found
  | failed alone placed _ tried => exact (flown tried).undoTearOut (fun _ => id) _ _ _
  | @launched _ attempted alone _ tried =>
      have aimless : Tends (fun dockable => dockable.carrier.Airborne) node
          (attempted.update node fun dockable =>
            { dockable with activeTarget := none, originTarget := tearOut.origin }) :=
        (flown tried).update fun _ => id
      have flying : Tends Dockable.Geared node
          ((attempted.update node fun dockable =>
            { dockable with activeTarget := none, originTarget := tearOut.origin }).enterPhase
              node .dragging) :=
        aimless.enterPhase fun _ airborne => .of_flying airborne rfl
      exact (flying.dismiss).congr rfl

theorem forgetDockable (destroyed : List NodeId) (node : NodeId) :
    (forgetDockable destroyed session node).Geared := by
  rcases session.forgetDockable_cases node destroyed with ⟨_, same⟩ | ⟨dockable, _, _, _, same⟩
  · rw [same]
    exact geared
  · rw [same]
    intro other remaining foundOther
    rw [dockable?, Table.get?_erase] at foundOther
    split at foundOther
    · cases foundOther
    · exact geared other remaining foundOther

theorem forgetTargets (destroyed : List NodeId) (node : NodeId) :
    (forgetTargets destroyed session node).Geared := by
  unfold Session.forgetTargets
  split
  · exact geared
  · next dockable found =>
      have cleared := geared.update node (fun dockable =>
        { dockable with
          originTarget :=
            if leadsInto destroyed dockable.originTarget then none else dockable.originTarget
          activeTarget :=
            if leadsInto destroyed dockable.activeTarget then none
            else dockable.activeTarget }) (fun _ => rfl) fun _ => rfl
      dsimp only
      split
      · next both =>
          rw [Bool.and_eq_true, decide_eq_true_eq] at both
          refine cleared.aim ((dockable?_update ..).trans (if_pos rfl |>.trans
            (congrArg (Option.map _) found))) ?_ rfl
          exact congrArg Phase.isInFlight both.2
      · exact cleared

theorem syncDestroyed : session.syncDestroyed.Geared :=
  syncDestroyed_induction (geared.congr rfl) (fun _ node kept => kept.forgetDockable _ node)
    fun _ node kept => kept.forgetTargets _ node

end Geared

namespace Tends

theorem releaseUndocked {known : Dockable → Prop} (tends : Tends known node session)
    (root : Point) : (session.releaseUndocked node root).Geared := by
  have settled := tends.settleUndocked root
  unfold Session.releaseUndocked
  dsimp only
  split
  · split
    · exact settled.congr rfl
    · exact Geared.syncDestroyed (settled.congr rfl)
  · exact settled

theorem turnAway {known : Dockable → Prop} (tends : Tends known node session) (target : NodeId)
    (root : Point) (hooks : Hooks) : (session.turnAway target node root hooks).1.Geared := by
  have told : Tends (fun _ => True) node (session.giveFeedback hooks target false).1 :=
    (tends.mono fun _ _ => trivial).congr rfl
  have cleared : Tends (fun _ => True) node ((session.giveFeedback hooks target false).1.update
      node fun dockable => { dockable with activeTarget := none }) :=
    told.update fun _ => id
  exact cleared.releaseUndocked root

theorem land (tends : Tends (fun dockable => dockable.window = none) node session) :
    (session.land node).Geared := by
  have released : Tends (fun dockable => dockable.window = none ∧ dockable.carrier.Idle) node
      (session.withCarrier node Carrier.afterRelease) := by
    refine tends.withCarrier fun dockable scene homeless => ⟨?_, ?_⟩
    · exact (dockable.carrier.window_afterRelease scene).trans homeless
    · exact dockable.carrier.idle_afterRelease scene
  have cleared : Tends (fun dockable => dockable.window = none ∧ dockable.carrier.Idle) node
      ((session.withCarrier node Carrier.afterRelease).update node fun dockable =>
        { dockable with activeTarget := none, originTarget := none, press := none }) :=
    released.update fun _ => id
  have docked : Tends Dockable.Geared node
      (((session.withCarrier node Carrier.afterRelease).update node fun dockable =>
        { dockable with activeTarget := none, originTarget := none, press := none }).enterPhase
          node .docked) :=
    cleared.enterPhase fun _ known => .of_resting known.2 rfl fun _ => known.1
  exact Geared.syncDestroyed ((docked.dismiss).congr rfl)

end Tends

namespace Geared

variable (geared : session.Geared)
include geared

theorem dock (target node : NodeId) (root : Point) (hooks : Hooks) :
    (session.dock target node root hooks).session.Geared := by
  have freed : Tends (fun dockable => dockable.window = none) node
      (session.withCarrier node fun carrier scene => carrier.beforeDock scene node) :=
    (geared.attend node).withCarrier fun dockable scene _ =>
      dockable.carrier.window_beforeDock scene node
  unfold Session.dock
  generalize session.withCarrier node (fun carrier scene => carrier.beforeDock scene node)
    = released at freed ⊢
  dsimp only
  split
  · have placed : Tends (fun dockable => dockable.window = none) node { released with
        tree := (hooks.runInsert released.tree target node).1 } := freed.congr rfl
    split
    · exact placed.turnAway target root hooks
    · have told : Tends (fun dockable => dockable.window = none) node (giveFeedback { released with
          tree := (hooks.runInsert released.tree target node).1 } hooks target false).1 :=
        placed.congr rfl
      exact told.land
  · exact (geared.attend node).turnAway target root hooks

omit geared in
theorem giveFirstPlace {plan : DockablePlan}
    (tends : Tends (fun dockable =>
      dockable.phase = (if plan.container.isSome then .docked else .undocked) ∧
        dockable.carrier.Idle ∧ dockable.window = none) node session) :
    (session.giveFirstPlace plan node).Geared := by
  unfold Session.giveFirstPlace
  split
  · next placed =>
      have docked : Tends Dockable.Geared node session := by
        refine tends.mono fun dockable ⟨phase_eq, idle, homeless⟩ => ?_
        rw [Dockable.Geared, phase_eq, placed]
        exact .of_resting idle rfl fun _ => homeless
      exact docked.dismiss.congr rfl
  · next free =>
      have undocked : Tends (fun dockable => dockable.phase = .undocked ∧ dockable.carrier.Idle)
          node session := by
        refine tends.mono fun dockable ⟨phase_eq, idle, _⟩ => ⟨?_, idle⟩
        rw [phase_eq, free]
        rfl
      refine Tends.dismiss ((undocked.settleCarrier plan.layout.position).mono ?_)
      intro dockable ⟨phase_eq, idle⟩
      rw [Dockable.Geared, phase_eq]
      exact .of_resting idle rfl nofun

theorem build (plan : DockablePlan) : (session.build plan).1.Geared := by
  have registered : Tends (fun dockable =>
      dockable.phase = (if plan.container.isSome then .docked else .undocked) ∧
        dockable.carrier.Idle ∧ dockable.window = none) (buildWidgets session.tree plan).body
      { session with
        tree := (buildWidgets session.tree plan).tree
        dockables := session.dockables.insert (buildWidgets session.tree plan).body
          (newDockable session plan (buildWidgets session.tree plan).handle) } := by
    constructor
    · intro dockable found
      rw [dockable?, Table.get?_insert, if_pos rfl] at found
      cases found
      exact ⟨rfl, Carrier.idle_new _, rfl⟩
    · intro other dockable found apart
      rw [dockable?, Table.get?_insert, if_neg apart] at found
      exact geared other dockable found
  have placed := giveFirstPlace registered
  unfold Session.build repaint
  dsimp only
  split
  · exact placed
  · exact placed.congr rfl

/-- Each deed of docking keeps what the carriers hold in step with the phases. -/
theorem deed {after : Session} (deed : Deed session after) : after.Geared := by
  cases deed with
  | arrange evolves => exact geared.congr rfl
  | post outbox => exact geared.congr rfl
  | press node press => exact geared.update node _ (fun _ => rfl) fun _ => rfl
  | follow found flying root => exact geared.congr rfl
  | resize found edge => exact geared.congr rfl
  | ask => exact geared.congr rfl
  | @aim node dockable found flying target =>
      have aimed := geared.update node (fun dockable =>
        { dockable with activeTarget := target }) (fun _ => rfl) fun _ => rfl
      refine aimed.aim ((dockable?_update ..).trans (if_pos rfl |>.trans
        (congrArg (Option.map _) found))) flying ?_
      split <;> rfl
  | @settle node dockable found flying root => exact (geared.attend node).settleUndocked root
  | beginDrag found resting tearOut => exact geared.beginDrag found resting tearOut
  | dock found flying target root hooks => exact geared.dock target _ root hooks
  | syncDestroyed => exact geared.syncDestroyed
  | build fresh plan => exact geared.build plan

theorem deeds {after : Session} (deeds : Deeds session after) : after.Geared := by
  induction deeds with
  | refl => exact geared
  | tail _ deed induction => exact induction.deed deed

theorem perform (orderly : session.Orderly) (operation : Operation) :
    (session.perform operation).Geared := by
  by_cases inhouse : ∀ command, operation ≠ .command command
  · exact geared.deeds (deeds_perform orderly inhouse)
  · push Not at inhouse
    obtain ⟨command, rfl⟩ := inhouse
    exact geared.congr rfl

theorem run (orderly : session.Orderly) (operations : List Operation) :
    (session.run operations).Orderly ∧ (session.run operations).Geared :=
  run_induction (motive := fun session => session.Orderly ∧ session.Geared) ⟨orderly, geared⟩
    (fun _ operation both => ⟨both.1.perform operation, both.2.perform both.1 operation⟩) operations

end Geared

theorem geared_start (desktop : Desktop) (settings : Settings) :
    (start desktop settings).Geared :=
  fun _ _ found => nomatch found

theorem geared_run (desktop : Desktop) (settings : Settings) (operations : List Operation) :
    ((start desktop settings).run operations).Geared :=
  ((geared_start desktop settings).run (.start desktop settings) operations).2

theorem geared_of_reachable {session : Session} (reachable : session.Reachable) :
    session.Geared := by
  obtain ⟨desktop, settings, operations, rfl⟩ := reachable
  exact geared_run desktop settings operations

/-! ### The picture in place of the pointer -/

/-- Each carrier holds what the phase of its dockable calls for, and a picture in place of the
pointer is that of the dockable in flight. -/
structure Equipped (session : Session) : Prop where
  carriers : session.Geared
  picture : session.desktop.cursor.isSome = true →
    ∃ node dockable, session.inFlight = some node ∧ session.dockable? node = some dockable ∧
      dockable.carrier.kind = .imageCursor

theorem Pictured.shower (pictured : session.Pictured) (orderly : session.Orderly)
    (shown : session.desktop.cursor.isSome = true) :
    ∃ node dockable, session.inFlight = some node ∧ session.dockable? node = some dockable ∧
      dockable.carrier.kind = .imageCursor := by
  obtain ⟨node, dockable, found, shows⟩ := pictured.shown shown
  refine ⟨node, dockable, (orderly.single.inFlight_iff node).mpr
    ⟨_, standing?_of_dockable? found, ?_⟩, found, ?_⟩
  · cases flies : dockable.isInFlight with
    | true => exact flies
    | false => exact nomatch (pictured.resting node dockable found id flies).symm.trans shows
  · unfold Carrier.shows at shows
    unfold Carrier.kind
    split at shows
    · next means => rw [means]
    · cases shows

theorem Pictured.run (pictured : session.Pictured) (orderly : session.Orderly)
    {operations : List Operation}
    (unpictured : ∀ image, .command (.setDragCursor image) ∉ operations) :
    (session.run operations).Pictured := by
  induction operations generalizing session with
  | nil => exact pictured
  | cons operation rest induction =>
      have kept := pictured.perform orderly fun image same =>
        unpictured image (same ▸ List.mem_cons_self)
      exact induction kept (orderly.perform operation) fun image member =>
        unpictured image (List.mem_cons_of_mem _ member)

/-- However the flights of a run ended, nothing of them is left on a carrier or on the screen. -/
theorem equipped_run (capabilities : Capabilities) (settings : Settings)
    {operations : List Operation}
    (unpictured : ∀ image, .command (.setDragCursor image) ∉ operations) :
    ((start (.withCapabilities capabilities) settings).run operations).Equipped where
  carriers := geared_run _ settings operations
  picture := ((pictured_start capabilities settings).run (.start _ settings) unpictured).shower
    (orderly_run _ settings operations)

/-- A dockable in flight that a picture of one pixel stands for. -/
def carriedAsPicture : Session :=
  (start (.withCapabilities { Capabilities.none with cursorImage := true })
    { Settings.standard with snapshotEdge := 1 }).run
    [.create (.new "tool"), .tearOut ⟨0⟩ .zero]

theorem equipped_carriedAsPicture :
    carriedAsPicture.Equipped ∧ carriedAsPicture.inFlight = some ⟨0⟩ ∧
      carriedAsPicture.desktop.cursor.isSome = true := by
  refine ⟨equipped_run _ _ fun image => ?_, by decide +kernel, by decide +kernel⟩
  simp

end Session
end Docking

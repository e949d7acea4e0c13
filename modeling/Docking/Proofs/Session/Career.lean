import Docking.Proofs.Session.CatchUp
import Docking.Proofs.Session.Deed
import Docking.Proofs.Window.Recovery

namespace Docking

/-! What becomes of the press and of the flight of a dockable from one operation to the next. -/

/-- A press that is kept belongs to a dockable that has not come to rest meanwhile, and a flight
goes on by the same means. -/
structure Dockable.Eases (earlier later : Dockable) : Prop where
  press : later.press = none ∨ later.press = earlier.press ∧
    (later.isInFlight = true ∨ later.phase = earlier.phase)
  means : later.isInFlight = true →
    earlier.isInFlight = true ∧ later.carrier.means = earlier.carrier.means

structure Dockable.Dormant (dockable : Dockable) : Prop where
  press : dockable.press = none
  resting : dockable.isInFlight = false

namespace Dockable

variable {earlier middle later : Dockable}

theorem Eases.refl (dockable : Dockable) : dockable.Eases dockable :=
  ⟨.inr ⟨rfl, .inr rfl⟩, fun flying => ⟨flying, rfl⟩⟩

theorem Eases.trans (first : earlier.Eases middle) (second : middle.Eases later) :
    earlier.Eases later where
  press := by
    rcases second.press with none | ⟨same, flies⟩
    · exact .inl none
    · rcases first.press with none | ⟨before, flew⟩
      · exact .inl (same.trans none)
      · refine .inr ⟨same.trans before, ?_⟩
        rcases flies with flies | phase
        · exact .inl flies
        · rw [isInFlight, phase]
          exact flew
  means flying := by
    obtain ⟨flew, same⟩ := second.means flying
    obtain ⟨flewBefore, before⟩ := first.means flew
    exact ⟨flewBefore, same.trans before⟩

theorem Dormant.eases (dormant : earlier.Dormant) (eases : earlier.Eases later) :
    later.Dormant where
  press := by
    rcases eases.press with none | ⟨same, _⟩
    · exact none
    · exact same.trans dormant.press
  resting := by
    rw [Bool.eq_false_iff]
    exact fun flying => nomatch dormant.resting.symm.trans (eases.means flying).1

theorem eases_forget (dockable : Dockable) (gone : List NodeId) :
    dockable.Eases (dockable.forget gone) := by
  have flies_iff : (dockable.forget gone).isInFlight = dockable.isInFlight :=
    dockable.standing.isInFlight_forget gone
  refine ⟨.inr ⟨rfl, ?_⟩, fun flying => ⟨flies_iff.symm.trans flying, rfl⟩⟩
  dsimp only [forget]
  split
  · exact .inl rfl
  · exact .inr rfl

end Dockable

namespace Carrier

variable (carrier : Carrier) (scene : Scene) (settings : Settings) (node : NodeId)

@[simp] theorem means_dropWindow : (carrier.dropWindow scene node).1.means = carrier.means := by
  unfold dropWindow
  split <;> rfl

@[simp] theorem means_takeWindow (position : Option Point) :
    (carrier.takeWindow scene settings node position).carrier.means = carrier.means := by
  unfold takeWindow
  split <;> rfl

theorem fst_handle_of_resting (press : Option Press) (event : Event) :
    (carrier.handle scene press false event).1 = scene := by
  unfold handle
  split <;> rfl

theorem grab_of_undock {root grab held : Point}
    (means : (carrier.undock scene settings node root grab).carrier.means = .generic held) :
    held = grab := by
  unfold undock at means
  split at means
  · simp only [means_takeWindow, means_dropWindow, Means.generic.injEq] at means
    exact means.symm
  · next kept =>
      dsimp only at means
      split at means
      · simp [kept] at means
      · split at means
        · simp [kept] at means
        · cases means
  · cases means

end Carrier

namespace Session

variable {before middle after session : Session} {node : NodeId}

/-- Whatever is registered was eased, or is dormant. -/
def Eases (before after : Session) : Prop :=
  ∀ node later, after.dockable? node = some later →
    later.Dormant ∨ ∃ earlier, before.dockable? node = some earlier ∧ earlier.Eases later

namespace Eases

theorem of_dockable? (same : ∀ node, after.dockable? node = before.dockable? node) :
    Eases before after :=
  fun node later found => .inr ⟨later, (same node).symm.trans found, .refl later⟩

theorem trans (first : Eases before middle) (second : Eases middle after) :
    Eases before after := by
  intro node later found
  rcases second node later found with dormant | ⟨between, known, eases⟩
  · exact .inl dormant
  · rcases first node between known with dormant | ⟨earlier, knownBefore, eased⟩
    · exact .inl (dormant.eases eases)
    · exact .inr ⟨earlier, knownBefore, eased.trans eases⟩

end Eases

def Touches (node : NodeId) (before after : Session) : Prop :=
  ∀ other, other ≠ node → after.dockable? other = before.dockable? other

namespace Touches

theorem of_dockable? (same : ∀ node, after.dockable? node = before.dockable? node) :
    Touches node before after :=
  fun other _ => same other

theorem trans (first : Touches node before middle) (second : Touches node middle after) :
    Touches node before after :=
  fun other apart => (second other apart).trans (first other apart)

theorem eases (touches : Touches node before after)
    (self : ∀ later, after.dockable? node = some later →
      later.Dormant ∨ ∃ earlier, before.dockable? node = some earlier ∧ earlier.Eases later) :
    Eases before after := by
  intro other later found
  by_cases here : other = node
  · subst here
    exact self later found
  · exact .inr ⟨later, (touches other here).symm.trans found, .refl later⟩

theorem rests (touches : Touches node before after)
    (dormant : ∀ later, after.dockable? node = some later → later.Dormant) :
    Eases before after :=
  touches.eases fun later found => .inl (dormant later found)

end Touches

section Touches

variable (session node)

theorem touches_update (change : Dockable → Dockable) :
    Touches node session (session.update node change) :=
  fun other apart => (session.dockable?_update node change other).trans (if_neg apart)

theorem touches_enterPhase (phase : Phase) :
    Touches node session (session.enterPhase node phase) := by
  intro other apart
  rw [dockable?, enterPhase, dockables_repaint]
  exact session.touches_update node _ other apart

theorem touches_withCarrier (action : Carrier → Scene → Carrier × Scene) :
    Touches node session (session.withCarrier node action) := by
  unfold withCarrier
  split
  · exact .of_dockable? fun _ => rfl
  · exact touches_update { session with toScene := _ } node _

theorem touches_tryCarrier
    (action : Carrier → Scene → Carrier.Outcome (Except DesktopError Unit)) :
    Touches node session (session.tryCarrier node action).1 := by
  unfold tryCarrier
  split
  · exact .of_dockable? fun _ => rfl
  · exact touches_update { session with toScene := _ } node _

theorem touches_leaveActiveTarget : Touches node session (session.leaveActiveTarget node) := by
  unfold leaveActiveTarget
  split
  · exact .of_dockable? fun _ => rfl
  · exact session.touches_update node _

theorem touches_settleUndocked (root : Point) :
    Touches node session (session.settleUndocked node root) := by
  have left := session.touches_leaveActiveTarget node
  have settled := left.trans (touches_tryCarrier _ node fun carrier scene =>
    carrier.settle scene (session.leaveActiveTarget node).settings node root)
  have rested := (settled.trans (touches_withCarrier _ node Carrier.afterRelease)).trans
    (touches_update _ node fun dockable => { dockable with originTarget := none })
  unfold settleUndocked
  dsimp only
  split
  · exact rested.trans (touches_enterPhase _ node .undocked)
  · exact rested.trans (touches_enterPhase _ node .undocked)

theorem touches_undoTearOut (layout : Rect) (former : Option (NodeId × Nat)) (root : Point) :
    Touches node session (session.undoTearOut node layout former root) := by
  have grounded := session.touches_withCarrier node fun carrier scene =>
    carrier.beforeDock scene node
  unfold undoTearOut
  dsimp only
  split
  · exact grounded
  · exact ((grounded.trans (touches_tryCarrier _ node _)).trans
      (touches_withCarrier _ node Carrier.afterRelease)).trans (touches_enterPhase _ node .undocked)

end Touches

/-! ### Coming to rest -/

theorem dormant_enterPhase {later : Dockable} {phase : Phase}
    (found : (session.enterPhase node phase).dockable? node = some later)
    (rests : phase = .undocked) : later.Dormant := by
  subst rests
  rw [dockable?_enterPhase] at found
  obtain ⟨earlier, _, rfl⟩ := Option.map_eq_some_iff.mp found
  exact ⟨rfl, rfl⟩

theorem eases_syncDestroyed (session : Session) : Eases session session.syncDestroyed := by
  intro node later found
  rw [dockable?_syncDestroyed] at found
  split at found
  · cases found
  · obtain ⟨earlier, known, rfl⟩ := Option.map_eq_some_iff.mp found
    exact .inr ⟨earlier, known, earlier.eases_forget _⟩

theorem dormant_settleUndocked {root : Point} {later : Dockable}
    (found : (session.settleUndocked node root).dockable? node = some later) : later.Dormant := by
  unfold settleUndocked at found
  dsimp only at found
  split at found
  · exact dormant_enterPhase found rfl
  · exact dormant_enterPhase found rfl

theorem Touches.settleUndocked (touches : Touches node before session) (root : Point) :
    Eases before (session.settleUndocked node root) :=
  (touches.trans (session.touches_settleUndocked node root)).rests fun _ => dormant_settleUndocked

theorem Touches.releaseUndocked (touches : Touches node before session) (root : Point) :
    Eases before (session.releaseUndocked node root) := by
  have settled := touches.settleUndocked root
  unfold Session.releaseUndocked
  generalize session.settleUndocked node root = rested at settled ⊢
  dsimp only
  split
  · split
    · exact settled
    · exact settled.trans (eases_syncDestroyed { rested with
        tree := (rested.tree.destroy node).1
        desktop := (rested.desktop.confirm rested.settings.confirmTitle
          rested.settings.confirmMessage).1 })
  · exact settled

/-! ### Tear-outs -/

section BeginDrag

variable {dockable : Dockable} (found : session.dockable? node = some dockable)
include found

/-- A dockable that a tear-out gave back is as it was but for its carrier, unless it came to rest
elsewhere. -/
theorem dormant_or_eq_undoTearOut (layout : Rect) (former : Option (NodeId × Nat)) (root : Point)
    {later : Dockable}
    (foundLater : (session.undoTearOut node layout former root).dockable? node = some later) :
    later.Dormant ∨ ∃ carrier, later = { dockable with carrier } := by
  have known := dockable?_withCarrier found fun carrier scene => carrier.beforeDock scene node
  unfold undoTearOut at foundLater
  cases former with
  | none => exact .inl (dormant_enterPhase foundLater rfl)
  | some slot => exact .inr ⟨_, Option.some.inj (foundLater.symm.trans known)⟩

theorem touches_attemptFlight {tearOut : TearOut} {attempted : Session}
    {result : Option (Except DesktopError Unit)}
    (tried : session.attemptFlight node tearOut = (attempted, result)) :
    Touches node session attempted ∧ ∃ carrier,
      attempted.dockable? node = some { dockable with carrier } ∧
        ∀ grab, carrier.means = .generic grab → grab = tearOut.grab := by
  have touches := touches_tryCarrier { session with tree := (session.tree.detach node).1 } node
    fun carrier scene => carrier.undock scene session.settings node tearOut.root tearOut.grab
  have known := @dockable?_tryCarrier { session with tree := (session.tree.detach node).1 } node
    dockable found fun carrier scene =>
      carrier.undock scene session.settings node tearOut.root tearOut.grab
  unfold attemptFlight at tried
  rw [tried] at touches known
  exact ⟨touches, _, known, fun _ => dockable.carrier.grab_of_undock _ _ node⟩

theorem eases_fail (resting : dockable.isInFlight = false) {tearOut : TearOut} {failed : Session}
    {error : DockError} (fails : session.beginDrag node tearOut = (failed, .error error)) :
    Eases session failed := by
  have begun := session.dragBegun_beginDrag node tearOut
  rw [fails] at begun
  cases begun with
  | declined hindered => exact .of_dockable? fun _ => rfl
  | unknown alone missing => exact .of_dockable? fun _ => rfl
  | @failed _ attempted report layout alone placed _ tried =>
      obtain ⟨touches, carrier, known, _⟩ := touches_attemptFlight found tried
      refine Touches.eases (touches.trans (attempted.touches_undoTearOut node _ _ _)) ?_
      intro later foundLater
      rcases dormant_or_eq_undoTearOut known _ _ _ foundLater with dormant | ⟨carrier, rfl⟩
      · exact .inl dormant
      · exact .inr ⟨dockable, found, .inr ⟨rfl, .inr rfl⟩,
          fun flying => nomatch resting.symm.trans flying⟩

theorem launched_beginDrag {tearOut : TearOut} {flying : Session}
    (begins : session.beginDrag node tearOut = (flying, .ok ())) :
    Touches node session flying ∧ ∃ carrier,
      flying.dockable? node = some { dockable with
        phase := .dragging
        activeTarget := none
        originTarget := tearOut.origin
        carrier } ∧
      ∀ grab, carrier.means = .generic grab → grab = tearOut.grab := by
  have begun := session.dragBegun_beginDrag node tearOut
  rw [begins] at begun
  cases begun with
  | @launched _ attempted alone _ tried =>
      obtain ⟨touches, carrier, known, held⟩ := touches_attemptFlight found tried
      have launched := touches.trans ((attempted.touches_update node fun dockable =>
        { dockable with activeTarget := none, originTarget := tearOut.origin }).trans
          (touches_enterPhase _ node .dragging))
      refine ⟨launched, carrier, ?_, held⟩
      refine (dockable?_enterPhase _ node .dragging).trans ?_
      rw [dockable?_update, if_pos rfl, known]
      rfl

end BeginDrag

/-! ### Landing -/

theorem Touches.land (touches : Touches node before session) : Eases before (session.land node) := by
  have docked := (touches.trans (session.touches_withCarrier node Carrier.afterRelease)).trans
    ((touches_update _ node fun dockable =>
      { dockable with activeTarget := none, originTarget := none, press := none }).trans
        (touches_enterPhase _ node .docked))
  unfold Session.land
  refine .trans (docked.rests fun later found => ?_) (eases_syncDestroyed _)
  rw [dockable?_enterPhase, dockable?_update, if_pos rfl, Option.map_map] at found
  obtain ⟨earlier, _, rfl⟩ := Option.map_eq_some_iff.mp found
  exact ⟨rfl, rfl⟩

theorem eases_dock (session : Session) (target node : NodeId) (root : Point) (hooks : Hooks) :
    Eases session (session.dock target node root hooks).session := by
  have freed := session.touches_withCarrier node fun carrier scene => carrier.beforeDock scene node
  have turned {placed : Session} (touches : Touches node session placed) :
      Eases session (placed.turnAway target node root hooks).1 :=
    Touches.releaseUndocked (touches.trans ((placed.giveFeedback hooks target false).1.touches_update
      node fun dockable => { dockable with activeTarget := none })) root
  unfold dock
  generalize session.withCarrier node (fun carrier scene => carrier.beforeDock scene node)
    = released at freed ⊢
  dsimp only
  split
  · have inserted : Touches node session { released with
        tree := (hooks.runInsert released.tree target node).1 } := freed
    split
    · exact turned inserted
    · have told : Touches node session (giveFeedback { released with
        tree := (hooks.runInsert released.tree target node).1 } hooks target false).1 := freed
      exact told.land
  · exact turned (.of_dockable? fun _ => rfl)

theorem touches_giveFirstPlace (session : Session) (plan : DockablePlan) (node : NodeId) :
    Touches node session (session.giveFirstPlace plan node) := by
  unfold giveFirstPlace
  split
  · exact .of_dockable? fun _ => rfl
  · exact session.touches_tryCarrier node _

theorem dockable?_giveFirstPlace {dockable : Dockable}
    (found : session.dockable? node = some dockable) (plan : DockablePlan) :
    ∃ carrier, (session.giveFirstPlace plan node).dockable? node =
      some { dockable with carrier } := by
  unfold giveFirstPlace
  split
  · exact ⟨_, found⟩
  · exact ⟨_, dockable?_tryCarrier found _⟩

theorem eases_build (session : Session) (plan : DockablePlan) :
    Eases session (session.build plan).1 := by
  unfold build
  dsimp only
  generalize buildWidgets session.tree plan = built
  have added (other : NodeId) := session.dockables.get?_insert built.body
    (session.newDockable plan built.handle) other
  generalize joined : ({ session with
    tree := built.tree
    dockables := session.dockables.insert built.body
      (session.newDockable plan built.handle) } : Session) = registered
  have known : registered.dockable? built.body = some (session.newDockable plan built.handle) := by
    rw [← joined, dockable?, added, if_pos rfl]
  have joins : Touches built.body session registered := by
    intro other apart
    rw [← joined, dockable?, added, if_neg apart]
    rfl
  have painted (current : Session) (other : NodeId) :
      (current.repaint built.body).dockable? other = current.dockable? other := by
    rw [dockable?, dockables_repaint]
    rfl
  refine Touches.rests ((joins.trans (registered.touches_giveFirstPlace plan built.body)).trans
    (.of_dockable? (painted _))) fun later found => ?_
  obtain ⟨carrier, placed⟩ := dockable?_giveFirstPlace known plan
  rw [painted] at found
  cases placed.symm.trans found
  refine ⟨rfl, ?_⟩
  dsimp only [Dockable.isInFlight, newDockable]
  split <;> rfl

/-! ### Whole operations -/

theorem eases_act (act : Act session after) : Eases session after := by
  cases act with
  | arrange evolves => exact .of_dockable? fun _ => rfl
  | post outbox => exact .of_dockable? fun _ => rfl
  | calm node =>
      refine (session.touches_update node _).eases fun later found => .inr ?_
      rw [dockable?_update, if_pos rfl] at found
      obtain ⟨earlier, known, rfl⟩ := Option.map_eq_some_iff.mp found
      exact ⟨earlier, known, .inl rfl, fun flying => ⟨flying, rfl⟩⟩
  | resize found edge => exact .of_dockable? fun _ => rfl
  | ask => exact .of_dockable? fun _ => rfl
  | @aim node dockable found flying target =>
      refine ((session.touches_update node _).trans (touches_enterPhase _ node _)).eases
        fun later foundLater => .inr ⟨dockable, found, ?_⟩
      rw [dockable?_enterPhase, dockable?_update, if_pos rfl, found, Option.map_some,
        Option.map_some] at foundLater
      cases foundLater
      cases target with
      | none => exact ⟨.inr ⟨rfl, .inl rfl⟩, fun _ => ⟨flying, rfl⟩⟩
      | some target => exact ⟨.inr ⟨rfl, .inl rfl⟩, fun _ => ⟨flying, rfl⟩⟩
  | settle found flying root => exact Touches.settleUndocked (.of_dockable? fun _ => rfl) root
  | fail found resting begun => exact eases_fail found resting begun
  | dock found flying target root hooks => exact session.eases_dock target _ root hooks
  | syncDestroyed => exact session.eases_syncDestroyed
  | build fresh plan => exact session.eases_build plan

theorem eases_acts (acts : Acts session after) : Eases session after := by
  induction acts with
  | refl => exact .of_dockable? fun _ => rfl
  | tail _ act induction => exact induction.trans (eases_act act)

theorem Launches.launched {root : Point} (launches : session.Launches node root after) :
    Touches node session after ∧ ∃ earlier later rect,
      session.dockable? node = some earlier ∧ earlier.isInFlight = false ∧
      session.screenRect? node = some rect ∧ after.dockable? node = some later ∧
      later.isInFlight = true ∧ later.press = earlier.press ∧
      ∀ grab, later.carrier.means = .generic grab → grab = root - rect.position := by
  obtain @⟨dockable, rect, tree, asked, flying, found, resting, shown, grab, evolves, begun, outbox⟩ :=
    launches
  obtain ⟨touches, carrier, known, held⟩ :=
    @launched_beginDrag { session with tree } node dockable found asked flying begun
  refine ⟨touches, dockable, _, rect, found, resting, shown, known, rfl, rfl, fun held' means => ?_⟩
  exact (held held' means).trans grab

/-- What is tracked of the pointer through an operation. -/
def pressAfter (session : Session) (node : NodeId) (dockable : Dockable) :
    Operation → Option Press
  | .payloadEvent other event =>
      if other = node then
        if session.misses dockable event then none
        else (Press.track dockable.press dockable.isInFlight event).1
      else dockable.press
  | _ => dockable.press

theorem pressAfter_of_apart {dockable : Dockable} {operation : Operation}
    (apart : ∀ event, operation ≠ .payloadEvent node event) :
    session.pressAfter node dockable operation = dockable.press := by
  cases operation with
  | payloadEvent other event =>
      refine if_neg ?_
      rintro rfl
      exact apart event rfl
  | _ => rfl

theorem pressAfter_of_hits {dockable : Dockable} {event : Event}
    (hits : session.misses dockable event = false) :
    session.pressAfter node dockable (.payloadEvent node event) =
      (Press.track dockable.press dockable.isInFlight event).1 := by
  simp [pressAfter, hits]

inductive Lift (session : Session) (node : NodeId) (root : Point) : Operation → Prop
  | pulled {operation : Operation} (pulls : session.Pulls node root operation) :
      Lift session node root operation
  | dragged {dockable : Dockable} {press : Press} (found : session.dockable? node = some dockable)
      (undocked : dockable.phase = .undocked) (pressed : dockable.press = some press)
      (armed : (press.moveTo root).exceeds session.settings.dragThreshold = true) :
      Lift session node root (.payloadEvent node (.pointerMove root))

/-- A dockable at rest is taken into flight. A window that is going to be moved is held where the
pointer was on the dockable. -/
structure Lifted (session : Session) (node : NodeId) (operation : Operation)
    (earlier later : Dockable) : Prop where
  resting : earlier.isInFlight = false
  flying : later.isInFlight = true
  press : later.press = session.pressAfter node earlier operation
  lift : ∃ root rect, session.Lift node root operation ∧
    session.screenRect? node = some rect ∧
      ∀ grab, later.carrier.means = .generic grab → grab = root - rect.position

/-- All that becomes of a dockable through an operation. -/
inductive Career (session : Session) (node : NodeId) (operation : Operation) (later : Dockable) :
    Prop
  | dormant (dormant : later.Dormant)
  | eased {earlier : Dockable} (known : session.dockable? node = some earlier)
      (eases : Dockable.Eases { earlier with
        press := session.pressAfter node earlier operation } later)
  | lifted {earlier : Dockable} (known : session.dockable? node = some earlier)
      (lifted : session.Lifted node operation earlier later)

section Career

variable {operation : Operation} {later : Dockable}

theorem Career.of_eases (eases : Eases session after)
    (found : after.dockable? node = some later)
    (untracked : ∀ earlier, session.dockable? node = some earlier →
      session.pressAfter node earlier operation = earlier.press) :
    session.Career node operation later := by
  rcases eases node later found with dormant | ⟨earlier, known, eased⟩
  · exact .dormant dormant
  · refine .eased known ?_
    rw [untracked earlier known]
    exact eased

theorem Career.of_touches {other : NodeId} (touches : Touches other session after)
    (apart : node ≠ other) (found : after.dockable? node = some later)
    (untracked : ∀ event, operation ≠ .payloadEvent node event) :
    session.Career node operation later := by
  refine .eased ((touches node apart).symm.trans found) ?_
  rw [pressAfter_of_apart untracked]
  exact .refl later

theorem Career.flew_or_lifted (career : session.Career node operation later)
    (flying : later.isInFlight = true) :
    ∃ earlier, session.dockable? node = some earlier ∧
      (earlier.isInFlight = true ∧ later.carrier.means = earlier.carrier.means ∨
        session.Lifted node operation earlier later) := by
  cases career with
  | dormant dormant => exact nomatch dormant.resting.symm.trans flying
  | eased known eases => exact ⟨_, known, .inl (eases.means flying)⟩
  | lifted known lifted => exact ⟨_, known, .inr lifted⟩

theorem hits_of_apart {dockable : Dockable} {event : Event}
    (apart : ∀ press inFlight, (Press.track press inFlight event).1 = press) :
    session.misses dockable event = false := by
  unfold misses
  split
  · cases apart none false
  · rfl

theorem exists_of_dockable?_tracked {other : NodeId} {dockable earlier : Dockable} {event : Event}
    (known : session.dockable? other = some dockable)
    (hits : session.misses dockable event = false)
    (found : (session.tracked other dockable event).dockable? node = some earlier) :
    ∃ before, session.dockable? node = some before ∧ earlier = { before with
      press := session.pressAfter node before (.payloadEvent other event) } := by
  by_cases here : node = other
  · subst here
    refine ⟨dockable, known, ?_⟩
    rw [pressAfter_of_hits hits]
    exact Option.some.inj (found.symm.trans (dockable?_tracked known event))
  · refine ⟨earlier, ((touches_update { session with toScene := _ } other _) node here).symm.trans
      found, ?_⟩
    rw [pressAfter_of_apart fun event' same => here (Operation.payloadEvent.inj same).1.symm]

theorem career_payloadEvent {other : NodeId} {event : Event}
    (found : (session.payloadEvent other event).1.dockable? node = some later) :
    session.Career node (.payloadEvent other event) later := by
  have elsewhere (apart : node ≠ other) (event' : Event) :
      Operation.payloadEvent other event ≠ .payloadEvent node event' :=
    fun same => apart (Operation.payloadEvent.inj same).1.symm
  have fed := session.fed_payloadEvent other event
  generalize (session.payloadEvent other event).1 = after at found fed
  cases fed with
  | unknown missing =>
      have apart : node ≠ other := by
        rintro rfl
        exact nomatch missing.symm.trans found
      exact .of_touches (.of_dockable? fun _ => rfl) apart found (elsewhere apart)
  | @missed dockable known misses =>
      by_cases here : node = other
      · subst here
        rw [dockable?_update, if_pos rfl, known] at found
        cases found
        refine .eased known ?_
        simp only [pressAfter, misses, if_true]
        exact .refl _
      · exact .of_touches (session.touches_update other _) here found (elsewhere here)
  | @interrupted dockable _ known apart acts =>
      refine .of_eases (eases_acts acts) found fun earlier knownEarlier => ?_
      by_cases here : node = other
      · subst here
        rw [pressAfter_of_hits (hits_of_apart apart), apart]
      · exact pressAfter_of_apart (elsewhere here)
  | @responded dockable _ known hits acts =>
      rcases eases_acts acts node later found with dormant | ⟨between, foundBetween, eases⟩
      · exact .dormant dormant
      · obtain ⟨earlier, knownEarlier, rfl⟩ := exists_of_dockable?_tracked known hits foundBetween
        exact .eased knownEarlier eases
  | @tornOut dockable press root _ known undocked moves pressed armed launches =>
      subst moves
      obtain ⟨touches, between, flown, rect, foundBetween, resting, shown, foundFlown, flying,
        kept, held⟩ := launches.launched
      obtain ⟨_, knownSame, rfl⟩ := exists_of_dockable?_tracked known rfl foundBetween
      cases known.symm.trans knownSame
      by_cases here : node = other
      · subst here
        cases found.symm.trans foundFlown
        have scene_eq : (session.tracked node dockable (.pointerMove root)).toScene =
            session.toScene := by
          have rests : dockable.isInFlight = false := resting
          rw [tracked, rests, Carrier.fst_handle_of_resting]
          rfl
        rw [scene_eq] at shown
        exact .lifted known ⟨resting, flying, kept, root, rect,
          .dragged known undocked pressed armed, shown, held⟩
      · rw [touches node here] at found
        obtain ⟨earlier, knownEarlier, rfl⟩ := exists_of_dockable?_tracked known rfl found
        exact .eased knownEarlier (.refl _)

theorem career_perform (orderly : session.Orderly)
    (found : (session.perform operation).dockable? node = some later) :
    session.Career node operation later := by
  by_cases inhouse : ∀ command, operation ≠ .command command
  · by_cases apart : ∀ other event, operation ≠ .payloadEvent other event
    · rcases acts_or_launches_perform orderly inhouse apart with
        acts | ⟨other, root, pulls, launches⟩
      · exact .of_eases (eases_acts acts) found fun _ _ => pressAfter_of_apart (apart node)
      · obtain ⟨touches, earlier, flown, rect, known, resting, shown, foundFlown, flying, kept,
          held⟩ := launches.launched
        by_cases here : node = other
        · subst here
          cases found.symm.trans foundFlown
          refine .lifted known ⟨resting, flying, ?_, root, rect, .pulled pulls, shown, held⟩
          rw [pressAfter_of_apart (apart node)]
          exact kept
        · exact .of_touches touches here found (apart node)
    · push Not at apart
      obtain ⟨other, event, rfl⟩ := apart
      exact career_payloadEvent found
  · push Not at inhouse
    obtain ⟨command, rfl⟩ := inhouse
    exact .of_eases (.of_dockable? fun _ => rfl) found fun _ _ => rfl

end Career

end Session
end Docking

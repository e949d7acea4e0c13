import Docking.Proofs.Twins.Step

namespace Docking

/-! The same tear-out from two hosts that refuse nothing takes the dockable into flight in both. -/

structure Desktop.Able (desktop : Desktop) : Prop where
  capabilities_eq : desktop.capabilities = .all
  faults_eq : desktop.faults = .none

/-- The windowing system fails at nothing, and can do what a carrier of the kind needs. -/
structure Desktop.Serves (desktop : Desktop) (kind : CarrierKind) : Prop where
  faults_eq : desktop.faults = .none
  systemDrag : kind = .compositor → desktop.capabilities.systemDrag = true

namespace Desktop

theorem Able.serves {desktop : Desktop} (able : desktop.Able) (kind : CarrierKind) :
    desktop.Serves kind :=
  ⟨able.faults_eq, fun _ => by rw [able.capabilities_eq]; rfl⟩

namespace Serves

variable {desktop after : Desktop} {kind : CarrierKind} (serves : desktop.Serves kind)
include serves

theorem steady (steady : Steady desktop after) : after.Serves kind where
  faults_eq := steady.faults_eq.trans serves.faults_eq
  systemDrag compositor := by
    rw [steady.capabilities_eq]
    exact serves.systemDrag compositor

theorem createWindow (descriptor : WindowDescriptor) :
    ∃ window, (desktop.createWindow descriptor).2 = .ok window ∧
      (desktop.createWindow descriptor).1.hasWindow window = true := by
  refine ⟨⟨desktop.nextNumber⟩, ?_, ?_⟩
  · unfold Desktop.createWindow attempt
    rw [serves.faults_eq]
    rfl
  · unfold Desktop.createWindow attempt
    rw [serves.faults_eq]
    simp only [Faults.none, hasWindow, record, Table.contains, Table.get?_insert, if_true,
      Option.isSome_some]

theorem startSystemDrag (compositor : kind = .compositor) {window : WindowId}
    (present : desktop.hasWindow window = true) (payload : DragPayload) :
    (desktop.startSystemDrag window payload).2 = .ok () := by
  unfold Desktop.startSystemDrag attempt
  rw [serves.faults_eq]
  have granted := serves.systemDrag compositor
  have shown : desktop.windows.contains window = true := present
  simp only [Faults.none, hasWindow, granted, shown, Bool.not_true, Bool.false_eq_true, if_false]

end Serves
end Desktop

namespace Carrier

variable (carrier : Carrier) {scene : Scene} {kind : CarrierKind}
  (serves : scene.desktop.Serves kind) (settings : Settings) (node : NodeId)
include serves

theorem takeWindow_of_serves (position : Option Point) :
    ∃ window, (carrier.takeWindow scene settings node position).result = .ok window ∧
      (carrier.takeWindow scene settings node position).scene.desktop.hasWindow window = true := by
  have created := serves.createWindow (.borderless settings.windowTitle position
    (.ofPoint ((scene.tree.layout? node).getD .zero).extent))
  unfold takeWindow Scene.openWindow
  dsimp only
  generalize scene.desktop.createWindow _ = outcome at created ⊢
  obtain ⟨desktop, result⟩ := outcome
  obtain ⟨window, granted, present⟩ := created
  cases granted
  exact ⟨window, rfl, present⟩

theorem undock_of_serves (same : carrier.kind = kind) (root grab : Point) :
    (carrier.undock scene settings node root grab).result = .ok () := by
  have dropped (carrier : Carrier) := serves.steady (carrier.steady_dropWindow scene node)
  unfold undock
  split
  · next kept _ =>
      obtain ⟨window, taken, _⟩ := takeWindow_of_serves
        (({ carrier with means := .generic grab } : Carrier).dropWindow scene node).1
        (dropped { carrier with means := .generic grab }) settings node (some (root - grab))
      dsimp only
      rw [taken]
      rfl
  · next means =>
      have compositor : kind = .compositor := by rw [← same, Carrier.kind, means]
      obtain ⟨window, taken, present⟩ := takeWindow_of_serves (carrier.dropWindow scene node).1
        (dropped carrier) settings node none
      have steady := steady_takeWindow (carrier.dropWindow scene node).1
        (carrier.dropWindow scene node).2 settings node none
      dsimp only
      rw [taken]
      dsimp only
      have started := ((dropped carrier).steady steady).startSystemDrag compositor present
        ⟨settings.markerMime, markerData node⟩
      split
      · next same =>
          rw [same] at started
          cases started
      · rfl
  · rfl

end Carrier

namespace Tree

def within (tree : Tree) (node other : NodeId) : Bool :=
  other = node || tree.isAncestor node other

def Shows (tree : Tree) (window : WindowId) : Prop :=
  ∃ node, tree.window? node = some window

theorem WellFormed.within_iff {tree : Tree} (wellFormed : tree.WellFormed) (node other : NodeId) :
    tree.within node other = true ↔ other = node ∨ tree.Above node other := by
  rw [within, Bool.or_eq_true, decide_eq_true_eq, wellFormed.isAncestor_iff]

structure Lifts (node : NodeId) (before after : Tree) : Prop where
  wellFormed : after.WellFormed
  covers : Covers (before.within node) node after
  present : after.contains node = true
  rooted : after.parent? node = none
  sighted : ∀ other window, after.window? other = some window → before.Shows window

theorem Lifts.detach {node : NodeId} {before after : Tree} (lifts : Lifts node before after) :
    Lifts node before (after.detach node).1 := by
  rwa [detach_of_parent?_eq_none lifts.rooted]

namespace WellFormed

variable {tree : Tree} (wellFormed : tree.WellFormed) {node : NodeId}
include wellFormed

theorem within_of_parent? {lower upper : NodeId} (linked : tree.parent? lower = some upper)
    (above : tree.within node upper = true) : tree.within node lower = true := by
  rw [wellFormed.within_iff] at above ⊢
  right
  rcases above with rfl | above
  · exact .of_parent? linked
  · exact .head linked above

theorem not_within_parent {parent : NodeId} (linked : tree.parent? node = some parent) :
    tree.within node parent = false := by
  rw [Bool.eq_false_iff]
  intro within
  have above := Above.of_parent? linked
  rcases (wellFormed.within_iff node parent).mp within with rfl | below
  · exact wellFormed.acyclic parent above
  · exact wellFormed.acyclic parent (above.trans below)

theorem lifts_detach (present : tree.contains node = true) :
    Lifts node tree (tree.detach node).1 where
  wellFormed := wellFormed.detach node
  covers := by
    refine ⟨(wellFormed.within_iff node node).mpr (.inl rfl), fun lower upper linked => ?_⟩
    rw [wellFormed.parent?_detach] at linked
    split at linked
    · cases linked
    · exact wellFormed.within_of_parent? linked
  present := by rw [wellFormed.contains_detach, present]
  rooted := by rw [wellFormed.parent?_detach, if_pos rfl]
  sighted other window shown := by
    rw [wellFormed.window?_detach] at shown
    exact ⟨other, shown⟩

theorem mooring?_placeholder {parent : NodeId} (linked : tree.parent? node = some parent)
    {mooring : Mooring}
    (moored : (tree.edit (Placement.removeLeavingBox tree node)).mooring? tree.nextId =
      some mooring) :
    mooring.window = none ∧ ∀ upper, mooring.parent = some upper → upper = parent := by
  obtain ⟨index, rect, edit_eq⟩ := wellFormed.edit_removeLeavingBox linked
  have added := (wellFormed.detach node).add .newTargetBox rect
  have fresh : ((tree.detach node).1.add .newTargetBox rect).mooring? tree.nextId =
      some ⟨none, none⟩ := by
    rw [mooring?_add, nextId_detach, if_pos rfl]
  rw [edit_eq] at moored
  by_cases admitted : ((tree.detach node).1.add .newTargetBox rect).admits parent
      tree.nextId = true
  · rw [added.mooring?_insertChild index admitted, if_pos rfl] at moored
    cases moored
    exact ⟨rfl, fun _ linked => (Option.some.inj linked).symm⟩
  · rw [insertChild_of_not_admits admitted, fresh] at moored
    cases moored
    exact ⟨rfl, fun _ linked => nomatch linked⟩

theorem lifts_removeLeavingBox {parent : NodeId} (linked : tree.parent? node = some parent) :
    Lifts node tree ((tree.edit (Placement.removeLeavingBox tree node)).detach node).1 := by
  -- all nodes but the placeholder are moored as after a plain `detach`
  have removed := wellFormed.edit (Placement.removeLeavingBox tree node)
  have elsewhere {other : NodeId} (known : other ≠ tree.nextId) :=
    wellFormed.mooring?_removeLeavingBox linked known
  have boxed {mooring : Mooring} := @mooring?_placeholder tree wellFormed node parent linked mooring
  generalize tree.edit (Placement.removeLeavingBox tree node) = left at removed elsewhere boxed ⊢
  refine ⟨removed.detach node, ⟨(wellFormed.within_iff node node).mpr (.inl rfl), ?_⟩, ?_, ?_, ?_⟩
  · intro lower upper hangs within
    rw [removed.parent?_detach] at hangs
    split at hangs
    · cases hangs
    · next different =>
        by_cases here : lower = tree.nextId
        · rw [Tree.parent?_eq_bind, here] at hangs
          obtain ⟨mooring, moored, hangs⟩ := Option.bind_eq_some_iff.mp hangs
          rw [(boxed moored).2 upper hangs, wellFormed.not_within_parent linked] at within
          cases within
        · rw [Tree.parent?_eq_bind, elsewhere here, ← Tree.parent?_eq_bind,
            wellFormed.parent?_detach, if_neg different] at hangs
          exact wellFormed.within_of_parent? hangs within
  · have known := wellFormed.ne_nextId (contains_of_parent? linked)
    rw [removed.contains_detach, contains_eq_isSome, elsewhere known, ← contains_eq_isSome,
      wellFormed.contains_detach]
    exact contains_of_parent? linked
  · rw [removed.parent?_detach, if_pos rfl]
  · intro other window shown
    rw [removed.window?_detach, Tree.window?_eq_bind] at shown
    by_cases here : other = tree.nextId
    · rw [here] at shown
      obtain ⟨mooring, moored, shows⟩ := Option.bind_eq_some_iff.mp shown
      rw [(boxed moored).1] at shows
      cases shows
    · rw [elsewhere here, ← Tree.window?_eq_bind, wellFormed.window?_detach] at shown
      exact ⟨other, shown⟩

end WellFormed
end Tree

namespace Session

variable {inside : NodeId → Bool} {known : WindowId → Prop} {node : NodeId}
  {first second : Session}

theorem Held.undock {session : Session} (held : Held inside known node session)
    (settings : Settings) (root grab : Point) :
    Alike inside known session (session.tryCarrier node fun carrier scene =>
        carrier.undock scene settings node root grab).1 ∧
      Held inside known node (session.tryCarrier node fun carrier scene =>
        carrier.undock scene settings node root grab).1 :=
  held.tryCarrier fun _ acts => acts.undock settings root grab

theorem tryCarrier_undock_of_serves {session : Session} {dockable : Dockable}
    (found : session.dockable? node = some dockable)
    (serves : session.desktop.Serves dockable.carrier.kind) (settings : Settings)
    (root grab : Point) :
    ∃ attempted, (session.tryCarrier node fun carrier scene =>
      carrier.undock scene settings node root grab) = (attempted, some (.ok ())) := by
  unfold tryCarrier
  rw [found]
  dsimp only
  rw [dockable.carrier.undock_of_serves serves settings node rfl root grab]
  exact ⟨_, rfl⟩

theorem Twins.beginDrag
    (twins : Twins inside known node { first with tree := (first.tree.detach node).1 }
      { second with tree := (second.tree.detach node).1 })
    (able : first.desktop.Able) (able' : second.desktop.Able)
    (grounded : first.inFlight = none) {layout layout' : Rect}
    (placed : first.tree.layout? node = some layout)
    (placed' : second.tree.layout? node = some layout') {dockable : Dockable}
    (found : first.dockable? node = some dockable) {tearOut tearOut' : TearOut}
    {outcome outcome' : Session × Except DockError Unit}
    (begun : first.beginDrag node tearOut = outcome)
    (begun' : second.beginDrag node tearOut' = outcome')
    (origin_eq : tearOut'.origin = tearOut.origin) :
    outcome.2 = .ok () ∧ outcome'.2 = .ok () ∧
      Twins inside known node outcome.1 outcome'.1 ∧ outcome.1.inFlight = some node := by
  subst begun begun'
  obtain ⟨carrier, found'⟩ := twins.alike.dockable?_of_some found
  have alone : first.otherInFlight? node = none := by
    rw [otherInFlight?, grounded, Option.filter_none]
  have alone' : second.otherInFlight? node = none := by
    rw [otherInFlight?, show second.inFlight = none from twins.alike.inFlight_eq.trans grounded,
      Option.filter_none]
  have lifted := twins.held.undock first.settings tearOut.root tearOut.grab
  have lifted' := twins.held'.undock second.settings tearOut'.root tearOut'.grab
  obtain ⟨attempted, tried⟩ := @tryCarrier_undock_of_serves node
    { first with tree := (first.tree.detach node).1 } dockable found (able.serves _) first.settings
    tearOut.root tearOut.grab
  obtain ⟨attempted', tried'⟩ := @tryCarrier_undock_of_serves node
    { second with tree := (second.tree.detach node).1 } _ found' (able'.serves _) second.settings
    tearOut'.root tearOut'.grab
  rw [tried] at lifted
  rw [tried'] at lifted'
  have launched := ((twins.act lifted lifted').update (fun dockable =>
    { dockable with activeTarget := none, originTarget := tearOut.origin }) (fun _ => rfl)
    (fun _ => rfl) fun _ _ aimed => absurd aimed.symm (Option.some_ne_none _)).enterPhase
      .dragging
  unfold Session.beginDrag
  rw [alone, alone', placed, placed', origin_eq]
  dsimp only
  rw [tried, tried']
  exact ⟨rfl, rfl, ⟨launched.alike.withInFlight (some node),
    launched.held.bookkeep (some node) _, launched.held'.bookkeep (some node) _⟩, rfl⟩

theorem targetEvent_of_grounded (session : Session) (grounded : session.inFlight = none)
    (target : NodeId) (root : Point) (hooks : Hooks) :
    session.targetEvent target (.pointerMove root) hooks = session.tearOutChild target root hooks := by
  have plain : session.remap (.pointerMove root) = .pointerMove root := rfl
  unfold targetEvent
  rw [plain, grounded]
  rfl

/-- The session on another host, with a carrier of some kind for the dockable, which is idle. -/
def carriedBy (session : Session) (node : NodeId) (kind : CarrierKind) (desktop : Desktop) :
    Session :=
  { session with desktop }.update node fun dockable => { dockable with carrier := .new kind }

end Session

/-- Two hosts that can do everything, fail at nothing and agree about the pointer, the user's
answer and the windows in which the tree is shown. -/
structure Desktop.Interchangeable (tree : Tree) (first second : Desktop) : Prop where
  able : first.Able
  able' : second.Able
  alike : Alike tree.Shows first second

def Desktop.Accounts (desktop : Desktop) (tree : Tree) : Prop :=
  ∀ window, tree.Shows window → window.number < desktop.nextNumber

namespace Session

variable {session : Session} {dockable : Dockable} (orderly : session.Orderly)
  (found : session.dockable? node = some dockable) (docked : dockable.phase = .docked)
  (alone : ∀ other, other ≠ node → session.dockable? other = none)

@[simp] theorem tree_carriedBy (session : Session) (node : NodeId) (kind : CarrierKind)
    (desktop : Desktop) : (session.carriedBy node kind desktop).tree = session.tree :=
  rfl

theorem flight_carriedBy (session : Session) (node : NodeId) (kind : CarrierKind)
    (desktop : Desktop) : (session.carriedBy node kind desktop).flight = session.flight :=
  flight_update_of_eq { session with desktop } node fun _ => rfl

theorem Orderly.carriedBy (orderly : session.Orderly) (node : NodeId) (kind : CarrierKind)
    (desktop : Desktop) : (session.carriedBy node kind desktop).Orderly := by
  have same := session.flight_carriedBy node kind desktop
  refine ⟨orderly.wellFormed, ?_, ?_⟩
  · rw [same]
    exact orderly.single
  · rw [same]
    exact orderly.index_lt

theorem alike_carriedBy (session : Session) (node : NodeId) (kind kind' : CarrierKind)
    {desktop desktop' : Desktop} (alike : Desktop.Alike known desktop desktop') :
    Alike inside known (session.carriedBy node kind desktop)
      (session.carriedBy node kind' desktop') where
  scene := ⟨rfl, alike⟩
  settings_eq := rfl
  dockables_eq := by
    have same (kind : CarrierKind) :
        (session.dockables.modify node fun dockable =>
          { dockable with carrier := .new kind }).mapValues (fun _ => Dockable.bare) =
            session.dockables.mapValues fun _ => Dockable.bare := by
      apply Table.mapValues_modify_of_eq
      exact fun _ _ => rfl
    exact (same kind').trans (same kind).symm
  inFlight_eq := rfl
  outbox_eq := rfl

include found in
theorem dockable?_carriedBy (kind : CarrierKind) (desktop : Desktop) :
    (session.carriedBy node kind desktop).dockable? node =
      some { dockable with carrier := .new kind } := by
  unfold carriedBy
  rw [dockable?_update, if_pos rfl]
  exact congrArg (Option.map _) found

include alone in
theorem alone_carriedBy (kind : CarrierKind) (desktop : Desktop) {other : NodeId}
    (different : other ≠ node) : (session.carriedBy node kind desktop).dockable? other = none := by
  refine (dockable?_update _ node _ other).trans ?_
  rw [if_neg different]
  exact alone other different

include found in
theorem rested_carriedBy (kind kind' : CarrierKind) {desktop desktop' : Desktop}
    (alike : Desktop.Alike known desktop desktop') :
    Rested inside known node (session.carriedBy node kind desktop)
      (session.carriedBy node kind' desktop') := by
  refine ⟨session.alike_carriedBy node kind kind' alike, ?_⟩
  unfold rest
  rw [dockable?_carriedBy found, dockable?_carriedBy found]
  rfl

include orderly found docked alone

theorem grounded_of_docked : session.inFlight = none := by
  cases flying : session.inFlight with
  | none => rfl
  | some other =>
      obtain ⟨flown, known, airborne⟩ := orderly.dockable?_of_inFlight flying
      have here : other = node := by
        by_contra different
        cases known.symm.trans (alone other different)
      subst here
      cases found.symm.trans known
      rw [Dockable.isInFlight, docked] at airborne
      cases airborne

theorem held_carriedBy (kind : CarrierKind) {desktop : Desktop} (able : desktop.Able)
    (accounts : desktop.Accounts session.tree) {tree : Tree} (lifts : session.tree.Lifts node tree) :
    Held (session.tree.within node) session.tree.Shows node
      { session.carriedBy node kind desktop with tree } := by
  have known := dockable?_carriedBy found kind desktop
  have sound := orderly.single.sound node _ (standing?_of_dockable? found)
  have aimless := sound.activeTarget_eq_none fun hovering => nomatch docked.symm.trans hovering
  refine ⟨⟨lifts.wellFormed, lifts.covers, lifts.present, lifts.rooted, accounts,
    fun other window _ => lifts.sighted other window⟩, ⟨fun _ => alone_carriedBy alone kind desktop,
    fun carried window same owns => ?_⟩, fun carried window same owns => ?_,
    fun carried target same aimed => ?_, able.faults_eq⟩
  · cases known.symm.trans same
    cases owns
  · cases known.symm.trans same
    cases owns
  · cases known.symm.trans same
    cases aimless.symm.trans aimed

variable {desktop desktop' : Desktop}
  (hosts : Desktop.Interchangeable session.tree desktop desktop')
  (accounts : desktop.Accounts session.tree) (accounts' : desktop'.Accounts session.tree)
  (kind kind' : CarrierKind)
include hosts accounts accounts'

theorem twins_carriedBy {tree : Tree} (lifts : session.tree.Lifts node tree) :
    Twins (session.tree.within node) session.tree.Shows node
      { session.carriedBy node kind desktop with tree }
      { session.carriedBy node kind' desktop' with tree } where
  alike := { session with tree }.alike_carriedBy node kind kind' hosts.alike
  held := held_carriedBy orderly found docked alone kind hosts.able accounts lifts
  held' := held_carriedBy orderly found docked alone kind' hosts.able' accounts' lifts

theorem tearOut_carriedBy (root : Point) :
    ((session.carriedBy node kind' desktop').tearOut node root).2 =
        ((session.carriedBy node kind desktop).tearOut node root).2 ∧
      Proceeds (session.tree.within node) session.tree.Shows node
        ((session.carriedBy node kind desktop).tearOut node root).1
        ((session.carriedBy node kind' desktop').tearOut node root).1 := by
  have grounded := grounded_of_docked orderly found docked alone
  have resting (kind : CarrierKind) :
      ¬ Dockable.isInFlight { dockable with carrier := .new kind } = true := by
    rw [Dockable.isInFlight, docked]
    exact Bool.false_ne_true
  unfold tearOut
  rw [dockable?_carriedBy found, dockable?_carriedBy found]
  dsimp only
  rw [if_neg (resting kind), if_neg (resting kind')]
  rw [Scene.screenRect?, Scene.screenRect?, tree_carriedBy, tree_carriedBy]
  cases placed : session.tree.layout? node with
  | none => exact ⟨rfl, .finished (rested_carriedBy found kind kind' hosts.alike) grounded⟩
  | some layout =>
      have lifts := orderly.wellFormed.lifts_detach (Tree.contains_of_layout? placed)
      have twins := twins_carriedBy orderly found docked alone hosts accounts accounts' kind kind'
        lifts
      have known := dockable?_carriedBy found kind desktop
      simp only [Option.map_some]
      -- where the dockable is grabbed depends on the window it is shown in, if it is in one
      suffices begins : ∀ tearOut tearOut' : TearOut, tearOut'.origin = tearOut.origin →
          ((session.carriedBy node kind' desktop').beginDrag node tearOut').2 =
              ((session.carriedBy node kind desktop).beginDrag node tearOut).2 ∧
            Proceeds (session.tree.within node) session.tree.Shows node
              ((session.carriedBy node kind desktop).beginDrag node tearOut).1
              ((session.carriedBy node kind' desktop').beginDrag node tearOut').1 from
        begins _ _ rfl
      intro tearOut tearOut' origin_eq
      obtain ⟨taken, taken', onward, airborne⟩ := @Twins.beginDrag _ _ node
        (session.carriedBy node kind desktop) (session.carriedBy node kind' desktop') twins
        hosts.able hosts.able' grounded _ _ placed placed _ known _ _ _ _ rfl rfl origin_eq
      exact ⟨taken'.trans taken.symm, .onward onward airborne⟩

theorem strongDrag_carriedBy (container : NodeId) (root : Point)
    (filter : Option (NodeId → NodeId → Bool)) :
    Concur (session.tree.within node) session.tree.Shows node
      ((session.carriedBy node kind desktop).targetEvent container (.pointerMove root)
        (.filtering filter))
      ((session.carriedBy node kind' desktop').targetEvent container (.pointerMove root)
        (.filtering filter)) := by
  have grounded := grounded_of_docked orderly found docked alone
  have armed_eq := (@alike_carriedBy session.tree.Shows (session.tree.within node) session node
    kind kind' _ _ hosts.alike).armedChild?_eq container
  rw [(session.carriedBy node kind desktop).targetEvent_of_grounded grounded,
    (session.carriedBy node kind' desktop').targetEvent_of_grounded grounded]
  unfold tearOutChild
  rw [armed_eq]
  cases armed : (session.carriedBy node kind desktop).armedChild? container with
  | none => exact ⟨rfl, rfl, .finished (rested_carriedBy found kind kind' hosts.alike) grounded⟩
  | some child =>
      obtain ⟨carried, known, _, linked⟩ := docked_of_armedChild? container armed
      have here : child = node := by
        by_contra different
        cases known.symm.trans (alone_carriedBy alone kind desktop different)
      subst here
      replace linked : session.tree.parent? child = some container := linked
      have lifts := orderly.wellFormed.lifts_removeLeavingBox linked
      have twins := twins_carriedBy orderly found docked alone hosts accounts accounts' kind kind'
        lifts.detach
      obtain ⟨layout, placed⟩ := Tree.layout?_of_contains (Tree.contains_of_parent? linked)
      obtain ⟨lifted, freed⟩ := Tree.layout?_of_contains lifts.present
      dsimp only
      rw [Scene.screenRect?, Scene.screenRect?, tree_carriedBy, tree_carriedBy, placed]
      have begins {tearOut tearOut' : TearOut} {outcome outcome' : Session × Except DockError Unit} :=
        @Twins.beginDrag _ _ child
          { session.carriedBy child kind desktop with tree := ((session.tree.edit
            (Placement.removeLeavingBox session.tree child)).detach child).1 }
          { session.carriedBy child kind' desktop' with tree := ((session.tree.edit
            (Placement.removeLeavingBox session.tree child)).detach child).1 }
          twins hosts.able hosts.able' grounded _ _ freed freed _
          (dockable?_carriedBy found kind desktop) tearOut tearOut' outcome outcome'
      simp only [Option.map_some]
      split
      · next flying begun =>
          split
          · next flying' begun' =>
              obtain ⟨_, _, onward, airborne⟩ := begins begun begun' rfl
              exact ⟨rfl, rfl, .onward (onward.notify container (.undock child)) airborne⟩
          · next failed =>
              cases (begins rfl failed rfl).2.1
      · next failed =>
          cases (begins failed rfl rfl).1

end Session
end Docking

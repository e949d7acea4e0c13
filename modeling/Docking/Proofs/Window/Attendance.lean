import Docking.Proofs.Flight.Session
import Docking.Proofs.Window.Carrier

namespace Docking

/-! What a session does for one dockable keeps everybody else's lodging, and the dockable's
own is in order whenever its carrier has finished. -/

def Dockable.lodging (dockable : Dockable) : Lodging :=
  ⟨dockable.phase = .docked, dockable.window⟩

theorem Dockable.sameLinks_paint (dockable : Dockable) (node : NodeId)
    (tree : Tree) : Tree.SameLinks tree (dockable.paint node tree) := by
  unfold Dockable.paint
  dsimp only
  split
  · exact (Tree.SameLinks.setBackground tree _ _).trans (.setLabel _ _ _)
  · exact .setBackground tree _ _

namespace Session

def lodgings (session : Session) : Lodgings := fun node =>
  (session.dockable? node).map Dockable.lodging

variable {session : Session} {node : NodeId}

theorem lodgings_of_dockable? {dockable : Dockable}
    (found : session.dockable? node = some dockable) :
    session.lodgings node = some dockable.lodging :=
  congrArg (Option.map Dockable.lodging) found

theorem lodgings_update {dockable : Dockable}
    (found : session.dockable? node = some dockable) (change : Dockable → Dockable) :
    (session.update node change).lodgings =
      Function.update session.lodgings node (some (change dockable).lodging) := by
  funext other
  rw [lodgings, dockable?_update, Function.update_apply]
  split
  · rw [found]
    rfl
  · rfl

theorem lodgings_update_carrier {dockable : Dockable}
    (found : session.dockable? node = some dockable) (scene : Scene) (carrier : Carrier) :
    ({ session with toScene := scene }.update node fun dockable =>
        { dockable with carrier }).lodgings =
      Function.update session.lodgings node
        (some ⟨dockable.lodging.docked, carrier.window⟩) :=
  @lodgings_update { session with toScene := scene } node dockable found _

theorem lodgings_update_of_eq {change : Dockable → Dockable}
    (same : ∀ dockable, session.dockable? node = some dockable →
      (change dockable).lodging = dockable.lodging) :
    (session.update node change).lodgings = session.lodgings := by
  cases found : session.dockable? node with
  | none =>
      funext other
      rw [lodgings, dockable?_update, lodgings]
      split
      · next at_node =>
          rw [at_node, found]
          rfl
      · rfl
  | some dockable =>
      rw [lodgings_update found, same dockable found, ← lodgings_of_dockable? found,
        Function.update_eq_self]

@[simp] theorem lodgings_repaint : (session.repaint node).lodgings = session.lodgings := by
  unfold repaint
  split <;> rfl

theorem toScene_repaint (session : Session) (node : NodeId) :
    ∃ tree, Tree.SameLinks session.tree tree ∧
      (session.repaint node).toScene = { session.toScene with tree } := by
  unfold repaint
  split
  · exact ⟨session.tree, .refl _, rfl⟩
  · next dockable _ => exact ⟨_, dockable.sameLinks_paint node session.tree, rfl⟩

def Roams (session : Session) (node : NodeId) : Prop :=
  ∃ window, session.lodgings node = some ⟨false, window⟩

theorem roams_of_dockable? {dockable : Dockable}
    (found : session.dockable? node = some dockable) (free : dockable.phase ≠ .docked) :
    session.Roams node := by
  have lodged := lodgings_of_dockable? found
  rw [Dockable.lodging, decide_eq_false free] at lodged
  exact ⟨_, lodged⟩

theorem roams_of_isInFlight {dockable : Dockable}
    (found : session.dockable? node = some dockable) (flying : dockable.isInFlight = true) :
    session.Roams node := by
  refine roams_of_dockable? found fun docked => ?_
  rw [Dockable.isInFlight, docked] at flying
  cases flying

theorem Roams.update (roams : session.Roams node) {other : NodeId}
    {change : Dockable → Dockable}
    (same : ∀ dockable, session.dockable? other = some dockable →
      (change dockable).lodging = dockable.lodging) :
    (session.update other change).Roams node := by
  rw [Roams, lodgings_update_of_eq same]
  exact roams

def Tidy (survey : Survey) (session : Session) : Prop :=
  House survey (fun _ => False) session.lodgings session.toScene

/-- A registered dockable is being attended to, and all others are in order. -/
structure Attends (survey : Survey) (moorings : NodeId → Option Mooring)
    (node : NodeId) (docked : Bool) (parent : Option NodeId) (window : Option WindowId)
    (session : Session) : Prop where
  lodged : session.lodgings node = some ⟨docked, window⟩
  hosts : Hosts survey session.lodgings moorings node docked parent window session.toScene

variable {survey : Survey} {moorings : NodeId → Option Mooring} {docked : Bool}
  {parent : Option NodeId} {window : Option WindowId}

namespace Attends

theorem of_hosts {lodgings : Lodgings}
    (hosts : Hosts survey lodgings moorings node docked parent window session.toScene)
    (lodgings_eq : session.lodgings =
      Function.update lodgings node (some ⟨docked, window⟩)) :
    Attends survey moorings node docked parent window session where
  lodged := by rw [lodgings_eq, Function.update_self]
  hosts := by
    refine ⟨?_, hosts.mooring?_eq, hosts.elsewhere⟩
    rw [lodgings_eq, Function.update_idem]
    exact hosts.house

variable (attends : Attends survey moorings node docked parent window session)
include attends

theorem dockable? : ∃ dockable, session.dockable? node = some dockable ∧
    dockable.lodging = ⟨docked, window⟩ :=
  Option.map_eq_some_iff.mp attends.lodged

theorem wellFormed : session.tree.WellFormed :=
  attends.hosts.house.wellFormed

theorem house : House survey (· = node) session.lodgings session.toScene := by
  have house := attends.hosts.house
  rwa [← attends.lodged, Function.update_eq_self] at house

theorem tidy (agrees : parent.isSome = docked) : session.Tidy survey := by
  refine attends.house.moor fun lodging lodged => ?_
  rw [attends.lodged] at lodged
  cases lodged
  rw [attends.hosts.mooring?_eq]
  exact ⟨rfl, agrees⟩

theorem withCarrier {action : Carrier → Scene → Carrier × Scene} {kept : Option WindowId}
    (acts : ∀ carrier, carrier.window = window →
      (action carrier session.toScene).1.window = kept ∧
        Hosts survey session.lodgings moorings node docked parent kept
          (action carrier session.toScene).2) :
    Attends survey moorings node docked parent kept (session.withCarrier node action) := by
  obtain ⟨dockable, found, lodging_eq⟩ := attends.dockable?
  obtain ⟨owned, hosts⟩ := acts dockable.carrier (congrArg Lodging.window lodging_eq)
  unfold Session.withCarrier
  rw [found]
  refine of_hosts hosts ?_
  dsimp only
  rw [lodgings_update_carrier found, owned, lodging_eq]

theorem tryCarrier
    {action : Carrier → Scene → Carrier.Outcome (Except DesktopError Unit)}
    (tries : ∀ carrier, carrier.window = window →
      Hosts survey session.lodgings moorings node docked parent
        (action carrier session.toScene).carrier.window
        (action carrier session.toScene).scene) :
    ∃ kept, Attends survey moorings node docked parent kept
      (session.tryCarrier node action).1 := by
  obtain ⟨dockable, found, lodging_eq⟩ := attends.dockable?
  have hosts := tries dockable.carrier (congrArg Lodging.window lodging_eq)
  refine ⟨(action dockable.carrier session.toScene).carrier.window, ?_⟩
  unfold Session.tryCarrier
  rw [found]
  refine of_hosts hosts ?_
  dsimp only
  rw [lodgings_update_carrier found, lodging_eq]

theorem beforeDock :
    Attends survey moorings node docked parent none
      (session.withCarrier node fun carrier scene => carrier.beforeDock scene node) :=
  attends.withCarrier fun carrier owned => by
    have hosts := attends.hosts
    rw [← owned] at hosts
    exact ⟨carrier.window_beforeDock session.toScene node, hosts.beforeDock⟩

theorem afterRelease :
    Attends survey moorings node docked parent window
      (session.withCarrier node Carrier.afterRelease) :=
  attends.withCarrier fun carrier owned => by
    have hosts := attends.hosts
    rw [← owned] at hosts ⊢
    exact ⟨carrier.window_afterRelease session.toScene, hosts.afterRelease⟩

theorem request {desktop : Desktop}
    (exchange : Desktop.Exchange none none session.desktop desktop) :
    Attends survey moorings node docked parent window { session with desktop } :=
  ⟨attends.lodged, attends.hosts.request exchange⟩

theorem update (change : Dockable → Dockable)
    (same : ∀ dockable, (change dockable).lodging = dockable.lodging) :
    Attends survey moorings node docked parent window (session.update node change) := by
  have unchanged : (session.update node change).lodgings = session.lodgings :=
    lodgings_update_of_eq fun dockable _ => same dockable
  exact ⟨unchanged ▸ attends.lodged, unchanged ▸ attends.hosts⟩

theorem repaint : Attends survey moorings node docked parent window (session.repaint node) := by
  obtain ⟨tree, same, scene_eq⟩ := session.toScene_repaint node
  have hosts := attends.hosts.sameLinks same
  rw [← scene_eq] at hosts
  refine ⟨?_, ?_⟩
  · rw [lodgings_repaint]
    exact attends.lodged
  · rw [lodgings_repaint]
    exact hosts

theorem enterPhase (phase : Phase) :
    Attends survey moorings node (phase = .docked) parent window
      (session.enterPhase node phase) := by
  obtain ⟨dockable, found, lodging_eq⟩ := attends.dockable?
  have owned : dockable.window = window := congrArg Lodging.window lodging_eq
  have changed := lodgings_update found fun dockable => dockable.withPhase phase
  refine repaint ⟨?_, ?_⟩
  · rw [changed, Function.update_self, ← owned]
    rfl
  · refine ⟨?_, attends.hosts.mooring?_eq, attends.hosts.elsewhere⟩
    rw [changed, Function.update_idem]
    refine attends.house.rename ?_ rfl
    rw [Lodgings.window?, attends.lodged]
    rfl

end Attends

namespace Attends

variable (attends : Attends survey moorings node docked none window session)
include attends

theorem settleCarrier (root : Point) :
    ∃ kept, Attends survey moorings node docked none kept
      (session.settleCarrier node root) :=
  attends.tryCarrier fun carrier owned => by
    have hosts := attends.hosts
    rw [← owned] at hosts
    exact hosts.settle session.settings root

theorem undock (root grab : Point) :
    ∃ kept, Attends survey moorings node docked none kept
      (session.tryCarrier node fun carrier scene =>
        carrier.undock scene session.settings node root grab).1 :=
  attends.tryCarrier fun carrier owned => by
    have hosts := attends.hosts
    rw [← owned] at hosts
    exact hosts.undock session.settings root grab

omit attends in
private theorem leaveActiveTarget
    (attends : Attends survey moorings node docked parent window session) :
    Attends survey moorings node docked parent window (session.leaveActiveTarget node) := by
  unfold Session.leaveActiveTarget
  split
  · exact attends
  · have cleared := attends.update
      (fun dockable => { dockable with activeTarget := none }) fun _ => rfl
    exact ⟨cleared.lodged, cleared.hosts⟩

theorem rest (root : Point) :
    ∃ kept, Attends survey moorings node false none kept (session.settleUndocked node root) := by
  obtain ⟨kept, settled⟩ := attends.leaveActiveTarget.settleCarrier root
  have rested := (settled.afterRelease.update
    (fun dockable => { dockable with originTarget := none }) fun _ => rfl).enterPhase .undocked
  refine ⟨kept, ?_⟩
  unfold Session.settleUndocked
  dsimp only
  split
  · exact ⟨rested.lodged, rested.hosts⟩
  · exact rested

theorem settleUndocked (root : Point) : (session.settleUndocked node root).Tidy survey :=
  let ⟨_, rested⟩ := attends.rest root
  rested.tidy rfl

end Attends
end Session
end Docking

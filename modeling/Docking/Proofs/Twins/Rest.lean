import Docking.Proofs.Flight.Landing
import Docking.Proofs.Twins.Session
import Docking.Proofs.Window.Recovery

namespace Docking

/-! Two sessions in which the same dockable hangs free, carried in one way or another. Both come
to rest in the same way. -/

theorem Tree.layout?_of_destroy {tree : Tree} {target node : NodeId} {layout : Rect}
    (placed : (tree.destroy target).1.layout? node = some layout) :
    tree.layout? node = some layout := by
  unfold destroy at placed
  split at placed
  · rw [← tree.layout?_detach target node]
    simp only [layout?, get?, Table.get?_foldl_erase] at placed ⊢
    split at placed
    · cases placed
    · exact placed
  · exact placed

namespace Scene.Secludes

variable {inside : NodeId → Bool} {known : WindowId → Prop} {node : NodeId} {scene : Scene}
  (secludes : scene.Secludes inside known node)
include secludes

theorem sameLinks {tree : Tree} (same : Tree.SameLinks scene.tree tree) :
    Secludes inside known node { scene with tree } where
  wellFormed := same.wellFormed secludes.wellFormed
  covers := secludes.covers.congr same.parent?_eq
  present := (same.contains_eq node).trans secludes.present
  rooted := (same.parent?_eq node).trans secludes.rooted
  given := secludes.given
  sighted other window outside shown :=
    secludes.sighted other window outside ((same.window?_eq other).symm.trans shown)

theorem not_mem_destroy {target : NodeId} (outside : inside target = false) :
    node ∉ (scene.tree.destroy target).2 := by
  intro listed
  cases present : scene.tree.contains target with
  | false =>
      rw [Tree.destroy_of_not_contains present] at listed
      cases listed
  | true =>
      rcases (secludes.wellFormed.mem_destroy_iff present node).mp listed with same | above
      · rw [← same, secludes.covers.node] at outside
        cases outside
      · obtain ⟨parent, linked, _⟩ := above.cases_head
        cases secludes.rooted.symm.trans linked

theorem destroy {target : NodeId} (outside : inside target = false) :
    Secludes inside known node { scene with tree := (scene.tree.destroy target).1 } where
  wellFormed := secludes.wellFormed.destroy target
  covers := by
    refine ⟨secludes.covers.node, fun lower upper linked => ?_⟩
    rw [secludes.wellFormed.parent?_destroy] at linked
    split at linked
    · cases linked
    · exact secludes.covers.below lower upper linked
  present := by
    dsimp only
    rw [secludes.wellFormed.contains_destroy, if_neg (secludes.not_mem_destroy outside)]
    exact secludes.present
  rooted := by
    dsimp only
    rw [secludes.wellFormed.parent?_destroy, if_neg (secludes.not_mem_destroy outside)]
    exact secludes.rooted
  given := secludes.given
  sighted other window outside shown := by
    rw [secludes.wellFormed.window?_destroy] at shown
    split at shown
    · cases shown
    · exact secludes.sighted other window outside shown

end Scene.Secludes

namespace Session

/-- The dockable is the only one and a root below the veil. It has no target there, and no request
to the windowing system fails. -/
structure Held (inside : NodeId → Bool) (known : WindowId → Prop) (node : NodeId)
    (session : Session) : Prop where
  secludes : session.toScene.Secludes inside known node
  sole : Sole (fun window => ¬ known window) node session
  atOrigin : ∀ dockable window, session.dockable? node = some dockable →
    dockable.window = some window → session.tree.AtOrigin node
  aims : ∀ dockable target, session.dockable? node = some dockable →
    dockable.activeTarget = some target → inside target = false
  faults_eq : session.desktop.faults = .none

variable {inside : NodeId → Bool} {known : WindowId → Prop} {node : NodeId}

namespace Held

variable {session : Session} (held : Held inside known node session)
include held

theorem act {dockable : Dockable} (found : session.dockable? node = some dockable)
    {carrier : Carrier} {scene : Scene}
    (acts : Carrier.Acts inside known node session.toScene carrier scene) :
    Held inside known node ({ session with toScene := scene }.update node fun dockable =>
      { dockable with carrier }) := by
  have carried (after : Dockable)
      (same : ({ session with toScene := scene }.update node fun dockable =>
        { dockable with carrier }).dockable? node = some after) :
      after = { dockable with carrier } := by
    rw [dockable?_update, if_pos rfl] at same
    obtain ⟨before, known, rfl⟩ := Option.map_eq_some_iff.mp same
    cases found.symm.trans known
    rfl
  have sole : Sole (fun window => ¬ known window) node { session with toScene := scene } :=
    held.sole.transfer fun _ => rfl
  refine ⟨acts.secludes, sole.update fun _ window _ owns => (acts.discreet window owns).1,
    fun after window same owns => ?_, fun after target same aimed => ?_,
    acts.steady.faults_eq.trans held.faults_eq⟩
  · cases carried after same
    exact (acts.discreet window owns).2
  · cases carried after same
    exact held.aims dockable target found aimed

theorem acts_refl {dockable : Dockable} (found : session.dockable? node = some dockable) :
    Carrier.Acts inside known node session.toScene dockable.carrier session.toScene :=
  .refl held.secludes fun window owns =>
    ⟨held.sole.owned dockable window found owns, held.atOrigin dockable window found owns⟩

theorem rescene {dockable : Dockable} (found : session.dockable? node = some dockable)
    {scene : Scene}
    (acts : Carrier.Acts inside known node session.toScene dockable.carrier scene) :
    Held inside known node { session with toScene := scene } :=
  ⟨acts.secludes, held.sole.transfer fun _ => rfl, fun other window same owns => by
    cases found.symm.trans same
    exact (acts.discreet window owns).2, held.aims, acts.steady.faults_eq.trans held.faults_eq⟩

theorem update (change : Dockable → Dockable)
    (carries : ∀ dockable, (change dockable).carrier = dockable.carrier)
    (aims : ∀ dockable target, (change dockable).activeTarget = some target →
      dockable.activeTarget = some target ∨ inside target = false) :
    Held inside known node (session.update node change) := by
  have owns_iff (dockable : Dockable) : (change dockable).window = dockable.window :=
    congrArg Carrier.window (carries dockable)
  have changed (after : Dockable) (same : (session.update node change).dockable? node = some after) :
      ∃ before, session.dockable? node = some before ∧ change before = after := by
    rw [dockable?_update, if_pos rfl] at same
    exact Option.map_eq_some_iff.mp same
  refine ⟨held.secludes, held.sole.update fun dockable window found owns => ?_,
    fun after window same owns => ?_, fun after target same aimed => ?_, held.faults_eq⟩
  · exact held.sole.owned dockable window found ((owns_iff dockable).symm.trans owns)
  · obtain ⟨before, found, rfl⟩ := changed after same
    exact held.atOrigin before window found ((owns_iff before).symm.trans owns)
  · obtain ⟨before, found, rfl⟩ := changed after same
    rcases aims before target aimed with earlier | outside
    · exact held.aims before target found earlier
    · exact outside

theorem repaint : Held inside known node (session.repaint node) := by
  unfold Session.repaint
  split
  · exact held
  · next dockable _ =>
      have same := dockable.sameGeometry_paint node session.tree
      refine ⟨held.secludes.sameLinks same.links, held.sole.transfer fun _ => rfl,
        fun after window found owns layout placed => ?_, held.aims, held.faults_eq⟩
      exact held.atOrigin after window found owns layout ((same.layout?_eq node).symm.trans placed)

theorem enterPhase (phase : Phase) : Held inside known node (session.enterPhase node phase) :=
  (held.update (fun dockable => dockable.withPhase phase) (fun _ => rfl)
    fun _ _ aimed => .inl aimed).repaint

theorem bookkeep (inFlight : Option NodeId) (outbox : List Notice) :
    Held inside known node { session with inFlight, outbox } :=
  ⟨held.secludes, held.sole.transfer fun _ => rfl, held.atOrigin, held.aims, held.faults_eq⟩

theorem notify (target : NodeId) (event : Event) :
    Held inside known node (session.notify target event) :=
  held.bookkeep session.inFlight _

theorem leaveActiveTarget : Held inside known node (session.leaveActiveTarget node) := by
  unfold Session.leaveActiveTarget
  split
  · exact held
  · exact (held.update (fun dockable => { dockable with activeTarget := none }) (fun _ => rfl)
      fun _ _ aimed => nomatch aimed).notify _ _

theorem withCarrier {action : Carrier → Scene → Carrier × Scene}
    (acts : ∀ carrier, Carrier.Acts inside known node session.toScene carrier session.toScene →
      Carrier.Acts inside known node session.toScene (action carrier session.toScene).1
        (action carrier session.toScene).2) :
    Alike inside known session (session.withCarrier node action) ∧
      Held inside known node (session.withCarrier node action) := by
  unfold Session.withCarrier
  split
  · exact ⟨.refl session, held⟩
  · next dockable found =>
      have acted := acts dockable.carrier (held.acts_refl found)
      exact ⟨session.alike_act node _ acted.alike, held.act found acted⟩

theorem tryCarrier {action : Carrier → Scene → Carrier.Outcome (Except DesktopError Unit)}
    (acts : ∀ carrier, Carrier.Acts inside known node session.toScene carrier session.toScene →
      Carrier.Acts inside known node session.toScene (action carrier session.toScene).carrier
        (action carrier session.toScene).scene) :
    Alike inside known session (session.tryCarrier node action).1 ∧
      Held inside known node (session.tryCarrier node action).1 := by
  unfold Session.tryCarrier
  split
  · exact ⟨.refl session, held⟩
  · next dockable found =>
      have acted := acts dockable.carrier (held.acts_refl found)
      exact ⟨session.alike_act node _ acted.alike, held.act found acted⟩

end Held

def rest (session : Session) (node : NodeId) : Option Rect × Option Bool :=
  (session.tree.layout? node,
    (session.dockable? node).map fun dockable => dockable.window.isSome)

/-- The same to anyone, and the dockable has ended up in the same place. -/
structure Rested (inside : NodeId → Bool) (known : WindowId → Prop) (node : NodeId)
    (first second : Session) : Prop where
  alike : Alike inside known first second
  rest_eq : second.rest node = first.rest node

structure Twins (inside : NodeId → Bool) (known : WindowId → Prop) (node : NodeId)
    (first second : Session) : Prop where
  alike : Alike inside known first second
  held : Held inside known node first
  held' : Held inside known node second

namespace Twins

variable {first second : Session} (twins : Twins inside known node first second)
include twins

theorem act {first' second' : Session}
    (acts : Alike inside known first first' ∧ Held inside known node first')
    (acts' : Alike inside known second second' ∧ Held inside known node second') :
    Twins inside known node first' second' :=
  ⟨(acts.1.symm.trans twins.alike).trans acts'.1, acts.2, acts'.2⟩

theorem update (change : Dockable → Dockable)
    (plain : ∀ dockable, (change dockable).bare = change dockable.bare)
    (carries : ∀ dockable, (change dockable).carrier = dockable.carrier)
    (aims : ∀ dockable target, (change dockable).activeTarget = some target →
      dockable.activeTarget = some target ∨ inside target = false) :
    Twins inside known node (first.update node change) (second.update node change) :=
  ⟨twins.alike.update node change plain, twins.held.update change carries aims,
    twins.held'.update change carries aims⟩

theorem enterPhase (phase : Phase) :
    Twins inside known node (first.enterPhase node phase) (second.enterPhase node phase) :=
  ⟨twins.alike.enterPhase node phase, twins.held.enterPhase phase, twins.held'.enterPhase phase⟩

theorem notify (target : NodeId) (event : Event) :
    Twins inside known node (first.notify target event) (second.notify target event) :=
  ⟨twins.alike.notify target event, twins.held.notify target event,
    twins.held'.notify target event⟩

theorem beforeDock :
    Twins inside known node
      (first.withCarrier node fun carrier scene => carrier.beforeDock scene node)
      (second.withCarrier node fun carrier scene => carrier.beforeDock scene node) :=
  twins.act (twins.held.withCarrier fun _ acts => acts.beforeDock)
    (twins.held'.withCarrier fun _ acts => acts.beforeDock)

theorem comeToRest (root : Point) :
    Twins inside known node
      ((first.settleCarrier node root).withCarrier node Carrier.afterRelease)
      ((second.settleCarrier node root).withCarrier node Carrier.afterRelease) := by
  have settled : Twins inside known node (first.settleCarrier node root)
      (second.settleCarrier node root) :=
    twins.act (twins.held.tryCarrier fun _ acts => acts.settle first.settings root)
      (twins.held'.tryCarrier fun _ acts => acts.settle second.settings root)
  exact settled.act (settled.held.withCarrier fun _ acts => acts.afterRelease)
    (settled.held'.withCarrier fun _ acts => acts.afterRelease)

theorem settleUndocked (root : Point) :
    Twins inside known node (first.settleUndocked node root)
      (second.settleUndocked node root) := by
  have left : Twins inside known node (first.leaveActiveTarget node)
      (second.leaveActiveTarget node) :=
    ⟨twins.alike.leaveActiveTarget node, twins.held.leaveActiveTarget,
      twins.held'.leaveActiveTarget⟩
  have rested := ((left.comeToRest root).update (fun dockable =>
    { dockable with originTarget := none }) (fun _ => rfl) (fun _ => rfl)
    fun _ _ aimed => .inl aimed).enterPhase .undocked
  unfold Session.settleUndocked
  simp only [rested.alike.inFlight_eq]
  split
  · exact ⟨rested.alike.withInFlight none, rested.held.bookkeep none _, rested.held'.bookkeep none _⟩
  · exact rested

theorem rested {dockable dockable' : Dockable} (found : first.dockable? node = some dockable)
    (found' : second.dockable? node = some dockable') (owns : dockable.window.isSome = true)
    (owns' : dockable'.window.isSome = true) : Rested inside known node first second := by
  refine ⟨twins.alike, ?_⟩
  obtain ⟨window, window_eq⟩ := Option.isSome_iff_exists.mp owns
  obtain ⟨window', window'_eq⟩ := Option.isSome_iff_exists.mp owns'
  -- the veil hides where the two lie, but with a window of its own each lies at the origin
  have origin := twins.held.atOrigin dockable window found window_eq
  have origin' := twins.held'.atOrigin dockable' window' found' window'_eq
  have extent_eq := twins.alike.scene.read (fun tree => (tree.layout? node).map Rect.extent)
    fun tree => tree.extent_veil inside node
  have layout_eq : second.tree.layout? node = first.tree.layout? node := by
    cases placed : first.tree.layout? node with
    | none =>
        rw [placed] at extent_eq
        exact Option.map_eq_none_iff.mp extent_eq
    | some layout =>
        rw [placed] at extent_eq
        obtain ⟨layout', placed', same⟩ := Option.map_eq_some_iff.mp extent_eq
        have position_eq := (origin' layout' placed').trans (origin layout placed).symm
        rw [placed']
        exact congrArg some (congrArg₂ Rect.placedAt position_eq same)
  unfold rest
  rw [layout_eq, found, found', Option.map_some, Option.map_some, owns, owns']

theorem settleUndocked_rested {dockable : Dockable}
    (found : first.dockable? node = some dockable) (root : Point) :
    Rested inside known node (first.settleUndocked node root)
      (second.settleUndocked node root) := by
  have settles {session : Session} {dockable : Dockable} (held : Held inside known node session)
      (found : session.dockable? node = some dockable) :
      ∃ window, (session.settleUndocked node root).dockable? node =
        some (dockable.putDown window) := by
    refine (dockable?_settleUndocked found root).resolve_right ?_
    rintro ⟨descriptor, report, _, failed⟩
    rw [held.faults_eq] at failed
    cases failed
  obtain ⟨carrier, found'⟩ := twins.alike.dockable?_of_some found
  obtain ⟨window, settled⟩ := settles twins.held found
  obtain ⟨window', settled'⟩ := settles twins.held' found'
  exact (twins.settleUndocked root).rested settled settled' rfl rfl

end Twins

theorem Alike.rested_of_gone {first second : Session} (alike : Alike inside known first second)
    (absent : first.tree.contains node = false) (unknown : first.dockable? node = none) :
    Rested inside known node first second := by
  have absent' : second.tree.contains node = false := by
    rw [← absent]
    exact alike.scene.read (·.contains node) fun tree => tree.contains_veil inside node
  have unplaced {tree : Tree} (absent : tree.contains node = false) :
      tree.layout? node = none := by
    rw [Tree.layout?, (tree.contains_eq_false_iff node).mp absent]
    rfl
  refine ⟨alike, ?_⟩
  unfold rest
  rw [unplaced absent, unplaced absent', unknown, alike.dockable?_of_none unknown]

theorem gone_of_destroyWidget {session : Session} (wellFormed : session.tree.WellFormed)
    (present : session.tree.contains node = true) :
    (session.destroyWidget node).tree.contains node = false ∧
      (session.destroyWidget node).dockable? node = none := by
  have listed := (wellFormed.mem_destroy_iff present node).mpr (.inl rfl)
  have destroyed : node ∈ (session.tree.destroy node).1.destroyed := by
    rw [Tree.destroyed_destroy]
    exact List.mem_append_right _ listed
  have removed := wellFormed.destroy node
  have lost := removed.lost_of_destroyed node destroyed
  have evolves := evolves_syncDestroyed { session with tree := (session.tree.destroy node).1 }
  refine ⟨(evolves.lost removed lost).2, ?_⟩
  have forgotten : (session.destroyWidget node).flight.standing? node = none := by
    unfold destroyWidget
    rw [flight_syncDestroyed, Flight.standing?_forget, if_pos destroyed]
  exact Option.map_eq_none_iff.mp forgotten

theorem inFlight_destroyWidget_of_grounded {session : Session}
    (grounded : session.inFlight = none) (target : NodeId) :
    (session.destroyWidget target).inFlight = none := by
  have forgotten := flight_syncDestroyed
    { session with tree := (session.tree.destroy target).1 }
  exact (congrArg Flight.inFlight forgotten).trans
    (Flight.forget_of_grounded _ (show session.flight.inFlight = none from grounded)).1

theorem inFlight_releaseUndocked {session : Session} (flying : session.inFlight = some node)
    (root : Point) : (session.releaseUndocked node root).inFlight = none := by
  have grounded := inFlight_settleUndocked flying root
  unfold releaseUndocked
  generalize session.settleUndocked node root = settled at grounded ⊢
  dsimp only
  split
  · split
    · exact grounded
    · refine inFlight_destroyWidget_of_grounded ?_ node
      exact grounded
  · exact grounded

namespace Held

variable {session : Session} (held : Held inside known node session)
include held

theorem forgetTargets (destroyed : List NodeId) (other : NodeId) :
    Held inside known node (forgetTargets destroyed session other) := by
  unfold Session.forgetTargets
  cases found : session.dockable? other with
  | none => exact held
  | some dockable =>
      have here : other = node := by
        by_contra different
        cases found.symm.trans (held.sole.alone other different)
      subst here
      have cleared := held.update (fun dockable => { dockable with
        originTarget :=
          if leadsInto destroyed dockable.originTarget then none else dockable.originTarget
        activeTarget :=
          if leadsInto destroyed dockable.activeTarget then none
          else dockable.activeTarget }) (fun _ => rfl) fun earlier target aimed => by
            dsimp only at aimed
            split at aimed
            · cases aimed
            · exact .inl aimed
      dsimp only
      split
      · exact cleared.enterPhase .dragging
      · exact cleared

omit held in
theorem inFlight_forgetTargets (session : Session) (destroyed : List NodeId) (other : NodeId) :
    (Session.forgetTargets destroyed session other).inFlight = session.inFlight :=
  congrArg Flight.inFlight (session.flight_forgetTargets other destroyed)

theorem syncDestroyed :
    Held inside known node session.syncDestroyed ∧
      session.syncDestroyed.inFlight = session.inFlight := by
  -- the dockable itself is still there, so none is dismissed
  have kept : node ∉ session.tree.destroyed := fun listed =>
    Bool.false_ne_true ((held.secludes.wellFormed.lost_of_destroyed node listed).2.symm.trans
      held.secludes.present)
  have dismissed (destroyed nodes : List NodeId) (session : Session)
      (held : Held inside known node session) (kept : node ∉ nodes) :
      nodes.foldl (forgetDockable destroyed) session = session := by
    induction nodes with
    | nil => rfl
    | cons other rest induction =>
        rw [List.mem_cons, not_or] at kept
        have unknown := held.sole.alone other (Ne.symm kept.1)
        rw [List.foldl_cons, forgetDockable, unknown]
        exact induction kept.2
  have cleared (destroyed nodes : List NodeId) (session : Session)
      (held : Held inside known node session) :
      Held inside known node (nodes.foldl (Session.forgetTargets destroyed) session) ∧
        (nodes.foldl (Session.forgetTargets destroyed) session).inFlight = session.inFlight := by
    induction nodes generalizing session with
    | nil => exact ⟨held, rfl⟩
    | cons other rest induction =>
        obtain ⟨later, inFlight_eq⟩ := induction _ (held.forgetTargets destroyed other)
        exact ⟨later, inFlight_eq.trans (inFlight_forgetTargets session destroyed other)⟩
  have secludes := held.secludes
  have forgotten : Held inside known node
      { session with tree := session.tree.forgetDestroyed } :=
    ⟨⟨secludes.wellFormed.forgetDestroyed, secludes.covers.congr fun _ => rfl,
      secludes.present, secludes.rooted, secludes.given, secludes.sighted⟩,
      held.sole.transfer fun _ => rfl, held.atOrigin, held.aims, held.faults_eq⟩
  unfold Session.syncDestroyed
  split
  · exact ⟨held, rfl⟩
  · dsimp only
    rw [dismissed _ _ _ forgotten kept]
    exact cleared _ _ _ forgotten

theorem destroyWidget {target : NodeId} (outside : inside target = false) :
    Held inside known node (session.destroyWidget target) ∧
      (session.destroyWidget target).inFlight = session.inFlight := by
  have removed : Held inside known node
      { session with tree := (session.tree.destroy target).1 } :=
    ⟨held.secludes.destroy outside, held.sole.transfer fun _ => rfl,
      fun dockable window found owns layout placed =>
        held.atOrigin dockable window found owns layout (Tree.layout?_of_destroy placed),
      held.aims, held.faults_eq⟩
  exact removed.syncDestroyed

end Held

namespace Twins

variable {first second : Session} (twins : Twins inside known node first second)
include twins

theorem alike_destroyWidget (target : NodeId) :
    Alike inside known (first.destroyWidget target) (second.destroyWidget target) :=
  twins.alike.destroyWidget twins.held.sole twins.held'.sole
    (fun _ unknown => ⟨twins.held.secludes.covers.node, unknown⟩) target

theorem destroyWidget {target : NodeId} (outside : inside target = false) :
    Twins inside known node (first.destroyWidget target) (second.destroyWidget target) :=
  ⟨twins.alike_destroyWidget target, (twins.held.destroyWidget outside).1,
    (twins.held'.destroyWidget outside).1⟩

theorem hear {desktop desktop' : Desktop} (alike : Desktop.Alike known desktop desktop')
    (faults_eq : desktop.faults = first.desktop.faults)
    (faults_eq' : desktop'.faults = second.desktop.faults)
    (nextNumber_eq : desktop.nextNumber = first.desktop.nextNumber)
    (nextNumber_eq' : desktop'.nextNumber = second.desktop.nextNumber) :
    Twins inside known node { first with desktop } { second with desktop := desktop' } := by
  have heard {session : Session} (held : Held inside known node session) {desktop : Desktop}
      (faults_eq : desktop.faults = session.desktop.faults)
      (nextNumber_eq : desktop.nextNumber = session.desktop.nextNumber) :
      Held inside known node { session with desktop } := by
    have secludes := held.secludes
    refine ⟨⟨secludes.wellFormed, secludes.covers, secludes.present, secludes.rooted, ?_,
      secludes.sighted⟩, held.sole.transfer fun _ => rfl, held.atOrigin, held.aims,
      faults_eq.trans held.faults_eq⟩
    intro window knows
    exact nextNumber_eq ▸ secludes.given window knows
  have before := twins.alike
  exact ⟨⟨⟨before.scene.tree_eq, alike⟩, before.settings_eq, before.dockables_eq,
    before.inFlight_eq, before.outbox_eq⟩, heard twins.held faults_eq nextNumber_eq,
    heard twins.held' faults_eq' nextNumber_eq'⟩

theorem ask (title message : String) :
    Twins inside known node
      { first with desktop := (first.desktop.confirm title message).1 }
      { second with desktop := (second.desktop.confirm title message).1 } :=
  have alike := twins.alike.scene.desktop
  twins.hear ⟨alike.pointer_eq, alike.confirmAnswer_eq, alike.windowPosition?_eq⟩ rfl rfl rfl rfl

theorem releaseUndocked_rested {dockable : Dockable}
    (found : first.dockable? node = some dockable) (root : Point) :
    Rested inside known node (first.releaseUndocked node root)
      (second.releaseUndocked node root) := by
  have settled := twins.settleUndocked root
  have rested := twins.settleUndocked_rested found root
  unfold Session.releaseUndocked
  generalize first.settleUndocked node root = left at settled rested ⊢
  generalize second.settleUndocked node root = right at settled rested ⊢
  have answer_eq (title message : String) :
      (right.desktop.confirm title message).2 = (left.desktop.confirm title message).2 :=
    settled.alike.scene.desktop.confirmAnswer_eq
  dsimp only
  rw [settled.alike.settings_eq]
  split
  · have asked := settled.ask left.settings.confirmTitle left.settings.confirmMessage
    rw [settled.alike.settings_eq] at asked
    rw [answer_eq]
    split
    · exact ⟨asked.alike, rested.rest_eq⟩
    · have gone := gone_of_destroyWidget asked.held.secludes.wellFormed
        asked.held.secludes.present
      exact (asked.alike_destroyWidget node).rested_of_gone gone.1 gone.2
  · exact rested

end Twins
end Session
end Docking

import Docking.Proofs.Session.Cursor

namespace Docking.Session

/-! Every deed of docking keeps the picture in place of the pointer to the flight of the
dockable that it shows. -/

open Carrier (Vouches)

/-- A picture is that of a registered dockable, and a dockable at rest shows none, apart from
those that are being attended to. -/
structure Pictures (attended : NodeId → Prop) (session : Session) : Prop where
  shown : session.desktop.cursor.isSome = true →
    ∃ node dockable, session.dockable? node = some dockable ∧ dockable.carrier.shows = true
  resting : ∀ node dockable, session.dockable? node = some dockable → ¬ attended node →
    dockable.isInFlight = false → dockable.carrier.shows = false

abbrev Pictured : Session → Prop := Pictures fun _ => False

def Hides (node : NodeId) (session : Session) : Prop :=
  ∀ dockable, session.dockable? node = some dockable → dockable.carrier.shows = false

variable {session : Session} {node : NodeId} {attended : NodeId → Prop}

theorem pictured_start (capabilities : Capabilities) (settings : Settings) :
    (start (.withCapabilities capabilities) settings).Pictured where
  shown shown := nomatch shown
  resting _ _ found := nomatch found

theorem Pictured.attend (pictured : session.Pictured) (node : NodeId) :
    Pictures (· = node) session :=
  ⟨pictured.shown, fun other dockable found _ => pictured.resting other dockable found id⟩

namespace Pictures

theorem congr {after : Session} (pictures : Pictures attended session)
    (cursor_eq : after.desktop.cursor = session.desktop.cursor)
    (dockables_eq : after.dockables = session.dockables) : Pictures attended after := by
  have known (node : NodeId) : after.dockable? node = session.dockable? node :=
    congrArg (Table.get? · node) dockables_eq
  constructor
  · intro shown
    simp only [known]
    exact pictures.shown (cursor_eq ▸ shown)
  · intro node dockable found
    rw [known] at found
    exact pictures.resting node dockable found

theorem dismiss (pictures : Pictures (· = node) session)
    (rests : ∀ dockable, session.dockable? node = some dockable →
      dockable.isInFlight = false → dockable.carrier.shows = false) : session.Pictured where
  shown := pictures.shown
  resting other dockable found _ resting := by
    by_cases same : other = node
    · subst same
      exact rests dockable found resting
    · exact pictures.resting other dockable found same resting

theorem dismiss_of_hides (pictures : Pictures (· = node) session) (hides : session.Hides node) :
    session.Pictured :=
  pictures.dismiss fun dockable found _ => hides dockable found

variable (pictures : Pictures (· = node) session)
include pictures

theorem update (change : Dockable → Dockable)
    (carrier_eq : ∀ dockable, (change dockable).carrier = dockable.carrier) :
    Pictures (· = node) (session.update node change) where
  shown shown := by
    obtain ⟨other, dockable, found, shows⟩ := pictures.shown shown
    by_cases same : other = node
    · subst same
      refine ⟨other, change dockable, ?_, (congrArg Carrier.shows (carrier_eq dockable)).trans shows⟩
      rw [dockable?_update, if_pos rfl, found]
      rfl
    · refine ⟨other, dockable, ?_, shows⟩
      rw [dockable?_update, if_neg same]
      exact found
  resting other dockable found apart := by
    rw [dockable?_update, if_neg apart] at found
    exact pictures.resting other dockable found apart

theorem act {dockable : Dockable} (found : session.dockable? node = some dockable)
    {carrier : Carrier} {scene : Scene}
    (vouches : Vouches dockable.carrier session.desktop carrier scene.desktop) :
    Pictures (· = node) ({ session with toScene := scene }.update node fun dockable =>
      { dockable with carrier }) := by
  have known (other : NodeId) : ({ session with toScene := scene }.update node fun dockable =>
      { dockable with carrier }).dockable? other =
        if other = node then some { dockable with carrier } else session.dockable? other := by
    rw [dockable?_update]
    refine if_congr Iff.rfl ?_ rfl
    exact congrArg (Option.map _) found
  constructor
  · intro shown
    rcases vouches shown with mine | ⟨shownEarlier, hidden⟩
    · exact ⟨node, _, (known node).trans (if_pos rfl), mine⟩
    · obtain ⟨other, shower, foundOther, shows⟩ := pictures.shown shownEarlier
      refine ⟨other, shower, ?_, shows⟩
      rw [known, if_neg]
      · exact foundOther
      · rintro rfl
        rw [found] at foundOther
        cases foundOther
        rw [hidden] at shows
        cases shows
  · intro other shower foundOther apart
    rw [known, if_neg apart] at foundOther
    exact pictures.resting other shower foundOther apart

theorem withCarrier {action : Carrier → Scene → Carrier × Scene}
    (vouches : ∀ carrier, Vouches carrier session.desktop
      (action carrier session.toScene).1 (action carrier session.toScene).2.desktop) :
    Pictures (· = node) (session.withCarrier node action) := by
  unfold Session.withCarrier
  split
  · exact pictures
  · next dockable found => exact pictures.act found (vouches dockable.carrier)

theorem tryCarrier {action : Carrier → Scene → Carrier.Outcome (Except DesktopError Unit)}
    (vouches : ∀ carrier, Vouches carrier session.desktop
      (action carrier session.toScene).carrier (action carrier session.toScene).scene.desktop) :
    Pictures (· = node) (session.tryCarrier node action).1 := by
  unfold Session.tryCarrier
  split
  · exact pictures
  · next dockable found => exact pictures.act found (vouches dockable.carrier)

theorem settleCarrier (root : Point) : Pictures (· = node) (session.settleCarrier node root) :=
  pictures.tryCarrier fun carrier =>
    carrier.vouches_settle session.toScene session.settings node root

theorem beforeDock :
    Pictures (· = node)
      (session.withCarrier node fun carrier scene => carrier.beforeDock scene node) :=
  pictures.withCarrier fun carrier => carrier.vouches_beforeDock session.toScene node

theorem afterRelease : Pictures (· = node) (session.withCarrier node Carrier.afterRelease) :=
  pictures.withCarrier fun carrier => carrier.vouches_afterRelease session.toScene

theorem repaint : Pictures (· = node) (session.repaint node) := by
  unfold Session.repaint
  split
  · exact pictures
  · exact pictures.congr rfl rfl

theorem enterPhase (phase : Phase) : Pictures (· = node) (session.enterPhase node phase) :=
  (pictures.update (·.withPhase phase) fun _ => rfl).repaint

end Pictures

namespace Hides

theorem of_withCarrier (session : Session) {action : Carrier → Scene → Carrier × Scene}
    (hides : ∀ carrier scene, (action carrier scene).1.shows = false) :
    (session.withCarrier node action).Hides node := by
  intro dockable found
  unfold withCarrier at found
  split at found
  · next unknown =>
      rw [unknown] at found
      cases found
  · rw [dockable?_update, if_pos rfl] at found
    obtain ⟨_, _, rfl⟩ := Option.map_eq_some_iff.mp found
    exact hides _ _

theorem of_afterRelease (session : Session) (node : NodeId) :
    (session.withCarrier node Carrier.afterRelease).Hides node :=
  of_withCarrier session fun carrier scene => carrier.shows_afterRelease scene

theorem of_beforeDock (session : Session) (node : NodeId) :
    (session.withCarrier node fun carrier scene => carrier.beforeDock scene node).Hides node :=
  of_withCarrier session fun carrier scene => carrier.shows_beforeDock scene node

theorem settleCarrier (hides : session.Hides node) (root : Point) :
    (session.settleCarrier node root).Hides node := by
  intro dockable found
  unfold Session.settleCarrier tryCarrier at found
  split at found
  · exact hides dockable found
  · next earlier known =>
      rw [dockable?_update, if_pos rfl] at found
      obtain ⟨_, _, rfl⟩ := Option.map_eq_some_iff.mp found
      exact (earlier.carrier.shows_settle session.toScene session.settings node root).trans
        (hides earlier known)

theorem update (hides : session.Hides node) (change : Dockable → Dockable)
    (carrier_eq : ∀ dockable, (change dockable).carrier = dockable.carrier) :
    (session.update node change).Hides node := by
  intro dockable found
  rw [dockable?_update, if_pos rfl] at found
  obtain ⟨earlier, known, rfl⟩ := Option.map_eq_some_iff.mp found
  rw [carrier_eq]
  exact hides earlier known

theorem enterPhase (hides : session.Hides node) (phase : Phase) :
    (session.enterPhase node phase).Hides node := by
  have entered := hides.update (·.withPhase phase) fun _ => rfl
  unfold Session.enterPhase repaint
  split
  · exact entered
  · exact entered

end Hides

namespace Pictures

theorem launch (pictures : Pictures (· = node) session) {phase : Phase}
    (flying : phase.isInFlight = true) : (session.enterPhase node phase).Pictured := by
  refine (pictures.enterPhase phase).dismiss fun dockable found resting => ?_
  rw [dockable?_enterPhase] at found
  obtain ⟨earlier, _, rfl⟩ := Option.map_eq_some_iff.mp found
  exact nomatch flying.symm.trans resting

variable (pictures : Pictures (· = node) session)
include pictures

theorem settleUndocked (root : Point) : (session.settleUndocked node root).Pictured := by
  have left : Pictures (· = node) (session.leaveActiveTarget node) := by
    unfold leaveActiveTarget
    split
    · exact pictures
    · exact (pictures.update (fun dockable => { dockable with activeTarget := none })
        fun _ => rfl).congr rfl rfl
  have settled := (left.settleCarrier root).afterRelease
  have hides := Hides.of_afterRelease ((session.leaveActiveTarget node).settleCarrier node root)
    node
  have rested := (settled.update (fun dockable => { dockable with originTarget := none })
    fun _ => rfl).enterPhase .undocked
  have pictured := rested.dismiss_of_hides ((hides.update
    (fun dockable => { dockable with originTarget := none }) fun _ => rfl).enterPhase .undocked)
  unfold Session.settleUndocked
  dsimp only
  split
  · exact pictured.congr rfl rfl
  · exact pictured

theorem undoTearOut (layout : Rect) (former : Option (NodeId × Nat)) (root : Point) :
    (session.undoTearOut node layout former root).Pictured := by
  have grounded := pictures.beforeDock
  unfold Session.undoTearOut
  cases former with
  | some slot => exact (grounded.dismiss_of_hides (.of_beforeDock session node)).congr rfl rfl
  | none =>
      exact ((grounded.settleCarrier root).afterRelease.enterPhase .undocked).dismiss_of_hides
        ((Hides.of_afterRelease _ node).enterPhase .undocked)

end Pictures

namespace Pictured

variable (pictured : session.Pictured)
include pictured

theorem update (node : NodeId) (change : Dockable → Dockable)
    (carrier_eq : ∀ dockable, (change dockable).carrier = dockable.carrier)
    (phase_eq : ∀ dockable, (change dockable).phase = dockable.phase) :
    (session.update node change).Pictured := by
  refine ((pictured.attend node).update change carrier_eq).dismiss fun changed known resting => ?_
  rw [dockable?_update, if_pos rfl] at known
  obtain ⟨dockable, found, rfl⟩ := Option.map_eq_some_iff.mp known
  rw [carrier_eq]
  refine pictured.resting node dockable found id ?_
  rw [Dockable.isInFlight, phase_eq] at resting
  exact resting

theorem beginDrag {dockable : Dockable} (found : session.dockable? node = some dockable)
    (tearOut : TearOut) : (session.beginDrag node tearOut).1.Pictured := by
  have freed : Pictures (· = node) { session with tree := (session.tree.detach node).1 } :=
    (pictured.attend node).congr rfl rfl
  have flown : Pictures (· = node) (session.attemptFlight node tearOut).1 :=
    freed.tryCarrier fun carrier =>
      carrier.vouches_undock _ session.settings node tearOut.root tearOut.grab
  have begun := session.dragBegun_beginDrag node tearOut
  generalize session.beginDrag node tearOut = outcome at begun ⊢
  cases begun with
  | declined hindered => exact pictured
  | unknown alone missing => cases missing.symm.trans found
  | failed alone placed _ tried =>
      rw [tried] at flown
      exact flown.undoTearOut _ _ _
  | launched alone _ tried =>
      rw [tried] at flown
      exact ((flown.update (fun dockable =>
        { dockable with activeTarget := none, originTarget := tearOut.origin })
        fun _ => rfl).launch rfl).congr rfl rfl

theorem forgetDockable (destroyed : List NodeId) (node : NodeId) :
    (forgetDockable destroyed session node).Pictured := by
  rcases session.forgetDockable_cases node destroyed with
    ⟨_, same⟩ | ⟨dockable, _, _, found, same⟩
  · rw [same]
    exact pictured
  · rw [same]
    obtain ⟨vouches, hidden⟩ := dockable.carrier.vouches_release session.toScene node
    constructor
    · intro shown
      obtain ⟨shownEarlier, idle⟩ := (vouches shown).resolve_left fun mine =>
        nomatch hidden.symm.trans mine
      obtain ⟨other, shower, foundOther, shows⟩ := pictured.shown shownEarlier
      refine ⟨other, shower, ?_, shows⟩
      rw [dockable?, Table.get?_erase, if_neg]
      · exact foundOther
      · rintro rfl
        rw [found] at foundOther
        cases foundOther
        rw [idle] at shows
        cases shows
    · intro other shower foundOther
      rw [dockable?, Table.get?_erase] at foundOther
      split at foundOther
      · cases foundOther
      · exact pictured.resting other shower foundOther

theorem forgetTargets (destroyed : List NodeId) (node : NodeId) :
    (forgetTargets destroyed session node).Pictured := by
  unfold Session.forgetTargets
  split
  · exact pictured
  · next dockable found =>
      have cleared := pictured.update node (fun dockable =>
        { dockable with
          originTarget :=
            if leadsInto destroyed dockable.originTarget then none else dockable.originTarget
          activeTarget :=
            if leadsInto destroyed dockable.activeTarget then none
            else dockable.activeTarget }) (fun _ => rfl) fun _ => rfl
      dsimp only
      split
      · exact (cleared.attend node).launch rfl
      · exact cleared

theorem syncDestroyed : session.syncDestroyed.Pictured :=
  syncDestroyed_induction (pictured.congr rfl rfl) (fun _ node kept => kept.forgetDockable _ node)
    fun _ node kept => kept.forgetTargets _ node

theorem releaseUndocked (node : NodeId) (root : Point) :
    (session.releaseUndocked node root).Pictured := by
  have settled := (pictured.attend node).settleUndocked root
  unfold Session.releaseUndocked
  dsimp only
  split
  · split
    · exact settled.congr rfl rfl
    · exact syncDestroyed (settled.congr rfl rfl)
  · exact settled

theorem turnAway (target node : NodeId) (root : Point) (hooks : Hooks) :
    (session.turnAway target node root hooks).1.Pictured := by
  have told : Pictured (session.giveFeedback hooks target false).1 := pictured.congr rfl rfl
  exact (told.update node (fun dockable => { dockable with activeTarget := none })
    (fun _ => rfl) fun _ => rfl).releaseUndocked node root

omit pictured in
theorem land (pictures : Pictures (· = node) session) : (session.land node).Pictured := by
  have released := pictures.afterRelease.update (fun dockable =>
    { dockable with activeTarget := none, originTarget := none, press := none }) fun _ => rfl
  have hides := (Hides.of_afterRelease session node).update (fun dockable =>
    { dockable with activeTarget := none, originTarget := none, press := none }) fun _ => rfl
  have docked := (released.enterPhase .docked).dismiss_of_hides (hides.enterPhase .docked)
  exact syncDestroyed (docked.congr rfl rfl)

theorem dock (target node : NodeId) (root : Point) (hooks : Hooks) :
    (session.dock target node root hooks).session.Pictured := by
  have freed := (pictured.attend node).beforeDock
  have hides := Hides.of_beforeDock session node
  unfold Session.dock
  generalize session.withCarrier node (fun carrier scene => carrier.beforeDock scene node)
    = released at freed hides ⊢
  dsimp only
  split
  · split
    · have placed : Pictured { released with
          tree := (hooks.runInsert released.tree target node).1 } :=
        (freed.dismiss_of_hides hides).congr rfl rfl
      exact placed.turnAway target node root hooks
    · exact land (freed.congr rfl rfl)
  · exact pictured.turnAway target node root hooks

theorem register (unknown : session.dockable? node = none) (tree : Tree) (plan : DockablePlan)
    (handle : Option NodeId) :
    let registered := { session with
      tree
      dockables := session.dockables.insert node (newDockable session plan handle) }
    registered.Pictured ∧ registered.Hides node := by
  have hidden : (newDockable session plan handle).carrier.shows = false := by
    unfold newDockable Carrier.new
    dsimp only
    cases CarrierKind.choose session.settings.forcedCarrier session.desktop.capabilities <;> rfl
  refine ⟨⟨fun shown => ?_, fun other shower found _ resting => ?_⟩, fun dockable found => ?_⟩
  · obtain ⟨other, shower, found, shows⟩ := pictured.shown shown
    refine ⟨other, shower, ?_, shows⟩
    rw [dockable?, Table.get?_insert, if_neg]
    · exact found
    · rintro rfl
      rw [unknown] at found
      cases found
  · rw [dockable?, Table.get?_insert] at found
    split at found
    · cases found
      exact hidden
    · exact pictured.resting other shower found id resting
  · rw [dockable?, Table.get?_insert, if_pos rfl] at found
    cases found
    exact hidden

theorem giveFirstPlace (plan : DockablePlan) (hides : session.Hides node) :
    (session.giveFirstPlace plan node).Pictured := by
  unfold Session.giveFirstPlace
  split
  · exact pictured.congr rfl rfl
  · exact ((pictured.attend node).settleCarrier _).dismiss_of_hides (hides.settleCarrier _)

theorem build (fresh : session.dockable? session.tree.nextId = none) (plan : DockablePlan) :
    (session.build plan).1.Pictured := by
  rw [← body_buildWidgets session.tree plan] at fresh
  obtain ⟨registered, hides⟩ := pictured.register fresh (buildWidgets session.tree plan).tree
    plan (buildWidgets session.tree plan).handle
  have placed := registered.giveFirstPlace plan hides
  unfold Session.build repaint
  dsimp only
  split
  · exact placed
  · exact placed.congr rfl rfl

theorem deed {after : Session} (deed : Deed session after) : after.Pictured := by
  cases deed with
  | arrange evolves => exact pictured.congr rfl rfl
  | post outbox => exact pictured.congr rfl rfl
  | press node press => exact pictured.update node _ (fun _ => rfl) fun _ => rfl
  | follow found flying root =>
      exact pictured.congr (Carrier.cursor_follow _ session.toScene root) rfl
  | resize found edge =>
      exact pictured.congr (Carrier.cursor_startInteractiveResize _ session.toScene edge) rfl
  | ask => exact pictured.congr rfl rfl
  | @aim node dockable found flying target =>
      refine ((pictured.attend node).update (fun dockable =>
        { dockable with activeTarget := target }) fun _ => rfl).launch ?_
      split <;> rfl
  | @settle node dockable found flying root => exact (pictured.attend node).settleUndocked root
  | beginDrag found resting tearOut => exact pictured.beginDrag found tearOut
  | dock found flying target root hooks => exact pictured.dock target _ root hooks
  | syncDestroyed => exact pictured.syncDestroyed
  | build fresh plan => exact pictured.build fresh plan

theorem deeds {after : Session} (deeds : Deeds session after) : after.Pictured := by
  induction deeds with
  | refl => exact pictured
  | tail _ deed induction => exact induction.deed deed

end Pictured

theorem cursor_eq_none {session : Session} (pictured : session.Pictured)
    (orderly : session.Orderly) (grounded : session.inFlight = none) :
    session.desktop.cursor = none := by
  cases shown : session.desktop.cursor with
  | none => rfl
  | some image =>
      obtain ⟨node, dockable, found, shows⟩ := pictured.shown (shown ▸ rfl)
      have resting : dockable.isInFlight = false := by
        cases flies : dockable.isInFlight with
        | false => rfl
        | true =>
            have flying := (orderly.single.inFlight_iff node).mpr
              ⟨_, standing?_of_dockable? found, flies⟩
            exact nomatch grounded.symm.trans flying
      rw [pictured.resting node dockable found id resting] at shows
      cases shows

end Docking.Session

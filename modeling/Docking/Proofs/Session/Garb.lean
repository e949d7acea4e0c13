import Docking.Proofs.Session.Reference
import Docking.Proofs.Tree.Looks

namespace Docking

/-! Every dockable shows the phase it is in. Its phase changes together with the look of the
widget that shows it, and nothing else that docking does touches the look of that widget. -/

open Docking.Tree (KeepsLooks Rehouses)

theorem Tree.Rehouses.keepsLooks {node : NodeId} {before after : Tree} {styled : NodeId → Prop}
    (rehouses : Rehouses node before after) : KeepsLooks styled before after := by
  induction rehouses with
  | refl => exact .refl _
  | detach _ earlier => exact earlier.trans (.rearrange _ (.detach node) rfl)
  | place _ _ _ earlier => exact earlier.trans (.rearrange _ (.place node _) rfl)
  | attachWindow _ window earlier =>
      exact earlier.trans (.rearrange _ (.attachWindow node window) rfl)
  | detachWindow _ earlier => exact earlier.trans (.rearrange _ (.detachWindow node) rfl)

namespace Style

/-- The widget has the colour of the style and, if the style comes with one, its label. -/
structure ShownBy (style : Style) (widget : Widget) : Prop where
  background_eq : widget.background = style.colour
  label_eq : ∀ label, style.label = some label → widget.label = label

def dress (style : Style) (widget : Widget) : Widget :=
  match style.label with
  | some label => (widget.setBackground style.colour).setLabel label
  | none => widget.setBackground style.colour

variable {style : Style} {widget : Widget}

theorem isPanel_dress : (style.dress widget).isPanel = widget.isPanel := by
  unfold dress
  split <;> cases widget <;> rfl

theorem shownBy_dress (panel : widget.isPanel = true) : style.ShownBy (style.dress widget) := by
  cases widget with
  | panel label background =>
      unfold dress
      split
      · next own => exact ⟨rfl, fun label shows => Option.some.inj (own.symm.trans shows)⟩
      · next unlabelled => exact ⟨rfl, fun label shows => nomatch unlabelled.symm.trans shows⟩
  | targetBox label background => cases panel
  | plain => cases panel

end Style

theorem Dockable.widget?_paint (dockable : Dockable) (node : NodeId) (tree : Tree)
    (other : NodeId) :
    (dockable.paint node tree).widget? other =
      if other = dockable.styledNode node then (tree.widget? other).map dockable.style.dress
      else tree.widget? other := by
  unfold paint Style.dress
  dsimp only
  cases dockable.style.label with
  | none => exact tree.widget?_retouch _ _ other
  | some label =>
      dsimp only
      rw [Tree.setLabel, Tree.widget?_retouch, Tree.setBackground, Tree.widget?_retouch]
      split
      · rw [Option.map_map]
        rfl
      · rfl

/-- The widget that shows the phase of a dockable, and the style it shows it in. -/
structure Garb where
  wearer : NodeId
  style : Style

def Dockable.garb (dockable : Dockable) (node : NodeId) : Garb :=
  ⟨dockable.styledNode node, dockable.style⟩

namespace Session

def garb? (session : Session) (node : NodeId) : Option Garb :=
  (session.dockable? node).map fun dockable => dockable.garb node

section Garbs

variable (session : Session) (node : NodeId)

theorem garb?_update {change : Dockable → Dockable}
    (same : ∀ dockable, (change dockable).garb node = dockable.garb node) :
    (session.update node change).garb? = session.garb? := by
  funext other
  rw [garb?, garb?, dockable?_update]
  split
  · next here =>
      rw [here, Option.map_map]
      exact congrFun (congrArg Option.map (funext same)) _
  · rfl

@[simp] theorem garb?_withCarrier (action : Carrier → Scene → Carrier × Scene) :
    (session.withCarrier node action).garb? = session.garb? := by
  unfold withCarrier
  split
  · rfl
  · exact garb?_update _ node fun _ => rfl

@[simp] theorem garb?_tryCarrier
    (action : Carrier → Scene → Carrier.Outcome (Except DesktopError Unit)) :
    (session.tryCarrier node action).1.garb? = session.garb? := by
  unfold tryCarrier
  split
  · rfl
  · exact garb?_update _ node fun _ => rfl

end Garbs

theorem keepsLooks_buildWidgets {styled : NodeId → Prop} (tree : Tree) (plan : DockablePlan) :
    KeepsLooks styled tree (buildWidgets tree plan).tree := by
  unfold buildWidgets
  dsimp only
  split
  · exact .rearrange tree (.add _ _) rfl
  · exact ((KeepsLooks.rearrange tree (.add _ _) rfl).trans (.rearrange _ (.add _ _) rfl)).trans
      (.rearrange _ (.addChild _ _) rfl)

theorem wearer_buildWidgets (tree : Tree) (plan : DockablePlan) :
    ∃ wearer, (buildWidgets tree plan).handle.getD (buildWidgets tree plan).body = wearer ∧
      tree.nextIndex ≤ wearer.index ∧ wearer.index < (buildWidgets tree plan).tree.nextIndex ∧
        ∀ widget, (buildWidgets tree plan).tree.widget? wearer = some widget →
          widget.isPanel = true := by
  unfold buildWidgets
  dsimp only
  split
  · refine ⟨_, rfl, Nat.le_refl _, Nat.lt_succ_self _, fun widget shown => ?_⟩
    rw [Option.getD_none, Tree.widget?_add, if_pos rfl] at shown
    cases shown
    rfl
  · next height _ =>
      refine ⟨_, rfl, Nat.le_succ _, ?_, fun widget shown => ?_⟩
      · rw [Tree.addChild, Tree.nextIndex_insertChild]
        exact Nat.lt_succ_self _
      · rw [Option.getD_some, Tree.addChild, Tree.widget?_insertChild, Tree.widget?_add,
          if_pos rfl] at shown
        cases shown
        rfl

/-- Every dockable shows its style on a panel of its own, but for one that may not be painted
yet. The widgets that show the styles are among the `styled`. -/
structure Dressed (session : Session) (styled : NodeId → Prop) (bare : Option NodeId) :
    Prop where
  known : ∀ node garb, session.garb? node = some garb →
    styled garb.wearer ∧ garb.wearer.index < session.tree.nextIndex
  apart : ∀ node garb, session.garb? node = some garb → ∀ other worn,
    session.garb? other = some worn → worn.wearer = garb.wearer → other = node
  panel : ∀ node garb, session.garb? node = some garb → ∀ widget,
    session.tree.widget? garb.wearer = some widget → widget.isPanel = true
  shows : ∀ node garb, session.garb? node = some garb → bare ≠ some node → ∀ widget,
    session.tree.widget? garb.wearer = some widget → garb.style.ShownBy widget

theorem dressed_start (desktop : Desktop) (settings : Settings) (styled : NodeId → Prop) :
    (start desktop settings).Dressed styled none where
  known _ _ worn := nomatch worn
  apart _ _ worn := nomatch worn
  panel _ _ worn := nomatch worn
  shows _ _ worn := nomatch worn

namespace Dressed

variable {session after : Session} {styled : NodeId → Prop} {bare : Option NodeId}
  {node : NodeId}

theorem among (dressed : session.Dressed styled bare) {others : NodeId → Prop}
    (wider : ∀ node garb, session.garb? node = some garb → others garb.wearer) :
    session.Dressed others bare :=
  { dressed with
    known := fun node garb wears => ⟨wider node garb wears, (dressed.known node garb wears).2⟩ }

theorem widget?_eq_some (dressed : session.Dressed styled bare) {tree : Tree}
    (keeps : KeepsLooks styled session.tree tree) {garb : Garb}
    (wears : session.garb? node = some garb) {widget : Widget}
    (shown : tree.widget? garb.wearer = some widget) :
    session.tree.widget? garb.wearer = some widget := by
  obtain ⟨among, below⟩ := dressed.known node garb wears
  rcases keeps.widget?_eq garb.wearer among below with gone | kept
  · cases gone.symm.trans shown
  · exact kept.symm.trans shown

theorem transfer (dressed : session.Dressed styled bare) {late : Option NodeId}
    (worn : ∀ node garb, after.garb? node = some garb → ∃ earlier,
      session.garb? node = some earlier ∧ earlier.wearer = garb.wearer ∧
        (late ≠ some node → bare ≠ some node ∧ earlier = garb))
    (keeps : KeepsLooks styled session.tree after.tree) : after.Dressed styled late where
  known node garb wears := by
    obtain ⟨earlier, wore, wearer, _⟩ := worn node garb wears
    obtain ⟨among, below⟩ := dressed.known node earlier wore
    rw [wearer] at among below
    exact ⟨among, Nat.lt_of_lt_of_le below keeps.nextIndex_le⟩
  apart node garb wears other another wearsAnother same := by
    obtain ⟨earlier, wore, wearer, _⟩ := worn node garb wears
    obtain ⟨former, woreFormer, formerWearer, _⟩ := worn other another wearsAnother
    exact dressed.apart node earlier wore other former woreFormer
      ((formerWearer.trans same).trans wearer.symm)
  panel node garb wears widget shown := by
    obtain ⟨earlier, wore, wearer, _⟩ := worn node garb wears
    rw [← wearer] at shown
    exact dressed.panel node earlier wore widget (dressed.widget?_eq_some keeps wore shown)
  shows node garb wears painted widget shown := by
    obtain ⟨earlier, wore, _, same⟩ := worn node garb wears
    obtain ⟨kept, rfl⟩ := same painted
    exact dressed.shows node earlier wore kept widget (dressed.widget?_eq_some keeps wore shown)

theorem shed (dressed : session.Dressed styled bare)
    (worn : ∀ node garb, after.garb? node = some garb → session.garb? node = some garb)
    (keeps : KeepsLooks styled session.tree after.tree) : after.Dressed styled bare :=
  dressed.transfer
    (fun node garb wears => ⟨garb, worn node garb wears, rfl, fun painted => ⟨painted, rfl⟩⟩) keeps

theorem stay (dressed : session.Dressed styled bare) (same : after.garb? = session.garb?)
    (keeps : KeepsLooks styled session.tree after.tree) : after.Dressed styled bare :=
  dressed.shed (fun _ _ worn => same ▸ worn) keeps

theorem update (dressed : session.Dressed styled bare) (node : NodeId)
    (change : Dockable → Dockable)
    (same : ∀ dockable, (change dockable).garb node = dockable.garb node) :
    (session.update node change).Dressed styled bare :=
  dressed.stay (session.garb?_update node same) (.refl _)

theorem withPhase (dressed : session.Dressed styled none) (node : NodeId) (phase : Phase) :
    (session.update node fun dockable => dockable.withPhase phase).Dressed styled (some node) := by
  refine dressed.transfer (fun other garb wears => ?_) (.refl _)
  obtain ⟨dockable, found, rfl⟩ := Option.map_eq_some_iff.mp wears
  rw [dockable?_update] at found
  split at found
  · next here =>
      obtain ⟨earlier, known, rfl⟩ := Option.map_eq_some_iff.mp found
      refine ⟨earlier.garb other, ?_, rfl, fun painted => absurd (congrArg some here.symm) painted⟩
      rw [garb?, here, known, Option.map_some]
  · refine ⟨dockable.garb other, ?_, rfl, fun _ => ⟨(Option.some_ne_none other).symm, rfl⟩⟩
    rw [garb?, found, Option.map_some]

theorem repaint (dressed : session.Dressed styled (some node)) :
    (session.repaint node).Dressed styled none := by
  unfold Session.repaint
  cases found : session.dockable? node with
  | none =>
      refine { dressed with shows := fun other garb wears _ => dressed.shows other garb wears ?_ }
      rintro ⟨⟩
      rw [garb?, found] at wears
      cases wears
  | some dockable =>
      have own : session.garb? node = some (dockable.garb node) := by
        rw [garb?, found, Option.map_some]
      have links := dockable.sameLinks_paint node session.tree
      -- a widget that is dressed anew is the panel of this very dockable
      have looked (other : NodeId) (garb : Garb) (wears : session.garb? other = some garb)
          (widget : Widget)
          (shown : (dockable.paint node session.tree).widget? garb.wearer = some widget) :
          widget.isPanel = true ∧ garb.style.ShownBy widget := by
        rw [Dockable.widget?_paint] at shown
        split at shown
        · next here =>
            obtain ⟨earlier, present, rfl⟩ := Option.map_eq_some_iff.mp shown
            have panel := dressed.panel other garb wears earlier present
            cases dressed.apart node _ own other garb wears here
            cases wears.symm.trans own
            exact ⟨Style.isPanel_dress.trans panel, Style.shownBy_dress panel⟩
        · next elsewhere =>
            refine ⟨dressed.panel other garb wears widget shown,
              dressed.shows other garb wears ?_ widget shown⟩
            rintro ⟨⟩
            cases wears.symm.trans own
            exact elsewhere rfl
      exact {
        known := fun other garb wears => by
          rw [links.nextIndex_eq]
          exact dressed.known other garb wears
        apart := dressed.apart
        panel := fun other garb wears widget shown => (looked other garb wears widget shown).1
        shows := fun other garb wears _ widget shown => (looked other garb wears widget shown).2 }

theorem enterPhase (dressed : session.Dressed styled none) (node : NodeId) (phase : Phase) :
    (session.enterPhase node phase).Dressed styled none :=
  (dressed.withPhase node phase).repaint

/-! ### Carriers -/

theorem withCarrier (dressed : session.Dressed styled bare)
    {action : Carrier → Scene → Carrier × Scene}
    (rehouses : ∀ carrier, Rehouses node session.tree (action carrier session.toScene).2.tree) :
    (session.withCarrier node action).Dressed styled bare := by
  refine dressed.stay (session.garb?_withCarrier node action) ?_
  unfold Session.withCarrier
  split
  · exact .refl _
  · exact (rehouses _).keepsLooks

theorem tryCarrier (dressed : session.Dressed styled bare)
    {action : Carrier → Scene → Carrier.Outcome (Except DesktopError Unit)}
    (rehouses : ∀ carrier,
      Rehouses node session.tree (action carrier session.toScene).scene.tree) :
    (session.tryCarrier node action).1.Dressed styled bare := by
  refine dressed.stay (session.garb?_tryCarrier node action) ?_
  unfold Session.tryCarrier
  split
  · exact .refl _
  · exact (rehouses _).keepsLooks

theorem settleCarrier (dressed : session.Dressed styled bare) (node : NodeId) (root : Point) :
    (session.settleCarrier node root).Dressed styled bare :=
  dressed.tryCarrier fun carrier =>
    carrier.rehouses_settle session.toScene session.settings node root

variable (dressed : session.Dressed styled none)
include dressed

theorem beforeDock (node : NodeId) :
    (session.withCarrier node fun carrier scene =>
      carrier.beforeDock scene node).Dressed styled none :=
  dressed.withCarrier fun carrier => carrier.rehouses_beforeDock session.toScene node

theorem afterRelease (node : NodeId) :
    (session.withCarrier node Carrier.afterRelease).Dressed styled none :=
  dressed.withCarrier fun carrier => by
    rw [Carrier.tree_afterRelease]
    exact Rehouses.refl

/-! ### Destruction and creation -/

theorem forgetDockable (destroyed : List NodeId) (node : NodeId) :
    (forgetDockable destroyed session node).Dressed styled none := by
  rcases session.forgetDockable_cases node destroyed with
    ⟨_, same⟩ | ⟨dockable, inFlight, outbox, _, same⟩
  · rwa [same]
  · rw [same]
    refine dressed.shed (fun other garb worn => ?_)
      (dockable.carrier.rehouses_release session.toScene node).keepsLooks
    rw [garb?, dockable?, Table.get?_erase] at worn
    split at worn
    · cases worn
    · exact worn

theorem forgetTargets (destroyed : List NodeId) (node : NodeId) :
    (forgetTargets destroyed session node).Dressed styled none := by
  unfold Session.forgetTargets
  split
  · exact dressed
  · have cleared := dressed.update node (fun dockable =>
      { dockable with
        originTarget :=
          if leadsInto destroyed dockable.originTarget then none else dockable.originTarget
        activeTarget :=
          if leadsInto destroyed dockable.activeTarget then none
          else dockable.activeTarget }) fun _ => rfl
    dsimp only
    split
    · exact cleared.enterPhase node .dragging
    · exact cleared

theorem syncDestroyed : session.syncDestroyed.Dressed styled none := by
  refine syncDestroyed_induction (motive := fun current => current.Dressed styled none) ?_ ?_ ?_
  · exact dressed.stay rfl (.rearrange session.tree .forgetDestroyed rfl)
  · exact fun current node dressed => dressed.forgetDockable _ node
  · exact fun current node dressed => dressed.forgetTargets _ node

theorem destroyWidget (node : NodeId) : (session.destroyWidget node).Dressed styled none := by
  have destroyed : ({ session with tree := (session.tree.destroy node).1 } : Session).Dressed
      styled none := dressed.stay rfl (.rearrange session.tree (.destroy node) rfl)
  exact destroyed.syncDestroyed

omit dressed in
theorem register (dressed : session.Dressed (fun _ => True) none) (plan : DockablePlan) :
    ({ session with
      tree := (buildWidgets session.tree plan).tree
      dockables := session.dockables.insert (buildWidgets session.tree plan).body
        (newDockable session plan (buildWidgets session.tree plan).handle) } : Session).Dressed
      (fun _ => True) (some (buildWidgets session.tree plan).body) := by
  have keeps : KeepsLooks (fun _ => True) session.tree (buildWidgets session.tree plan).tree :=
    keepsLooks_buildWidgets session.tree plan
  obtain ⟨wearer, wearer_eq, fresh, below, panel⟩ := wearer_buildWidgets session.tree plan
  generalize buildWidgets session.tree plan = built at keeps wearer_eq below panel ⊢
  have worn (node : NodeId) (garb : Garb) (wears : Session.garb? { session with
      tree := built.tree
      dockables := session.dockables.insert built.body (newDockable session plan built.handle) }
        node = some garb) :
      node = built.body ∧ garb.wearer = wearer ∨
        node ≠ built.body ∧ session.garb? node = some garb := by
    rw [garb?, dockable?, Table.get?_insert] at wears
    split at wears
    · next here =>
        cases wears
        exact .inl ⟨here, (congrArg _ here).trans wearer_eq⟩
    · next elsewhere => exact .inr ⟨elsewhere, wears⟩
  -- earlier widgets came before all new ones
  have older (node : NodeId) (garb : Garb) (wears : session.garb? node = some garb) :
      garb.wearer ≠ wearer := by
    rintro rfl
    exact Nat.not_lt_of_le fresh (dressed.known node garb wears).2
  exact {
    known := fun node garb wears => by
      refine ⟨trivial, ?_⟩
      rcases worn node garb wears with ⟨_, new⟩ | ⟨_, wore⟩
      · rwa [new]
      · exact Nat.lt_of_lt_of_le (dressed.known node garb wore).2 keeps.nextIndex_le
    apart := fun node garb wears other another wearsAnother same => by
      rcases worn node garb wears with ⟨here, new⟩ | ⟨_, wore⟩
      · rcases worn other another wearsAnother with ⟨there, _⟩ | ⟨_, woreAnother⟩
        · exact there.trans here.symm
        · exact absurd (same.trans new) (older other another woreAnother)
      · rcases worn other another wearsAnother with ⟨_, new⟩ | ⟨_, woreAnother⟩
        · exact absurd (same.symm.trans new) (older node garb wore)
        · exact dressed.apart node garb wore other another woreAnother same
    panel := fun node garb wears widget shown => by
      rcases worn node garb wears with ⟨_, new⟩ | ⟨_, wore⟩
      · exact panel widget (new ▸ shown)
      · exact dressed.panel node garb wore widget (dressed.widget?_eq_some keeps wore shown)
    shows := fun node garb wears painted widget shown => by
      rcases worn node garb wears with ⟨here, _⟩ | ⟨_, wore⟩
      · exact absurd (congrArg some here.symm) painted
      · exact dressed.shows node garb wore (Option.some_ne_none node).symm widget
          (dressed.widget?_eq_some keeps wore shown) }

omit dressed in
theorem create (dressed : session.Dressed (fun _ => True) none) (plan : DockablePlan) :
    (session.create plan).1.Dressed (fun _ => True) none := by
  have registered := dressed.register plan
  have built : (session.build plan).1.Dressed (fun _ => True) none := by
    refine Dressed.repaint ?_
    unfold giveFirstPlace
    split
    · exact registered.stay rfl (.rearrange _ (.insertChild _ _ _) rfl)
    · exact registered.settleCarrier _ _
  unfold Session.create
  split
  · split
    · exact built
    · exact dressed
  · exact built

/-! ### Drags -/

theorem undoTearOut (node : NodeId) (layout : Rect) (former : Option (NodeId × Nat))
    (root : Point) : (session.undoTearOut node layout former root).Dressed styled none := by
  have grounded := dressed.beforeDock node
  unfold Session.undoTearOut
  dsimp only
  split
  · exact grounded.stay rfl ((KeepsLooks.rearrange _ (.insertChild _ _ node) rfl).trans
      (.rearrange _ (.place node layout) rfl))
  · exact ((grounded.settleCarrier node root).afterRelease node).enterPhase node .undocked

theorem beginDrag (node : NodeId) (tearOut : TearOut) :
    (session.beginDrag node tearOut).1.Dressed styled none := by
  have freed : ({ session with tree := (session.tree.detach node).1 } : Session).Dressed
      styled none := dressed.stay rfl (.rearrange session.tree (.detach node) rfl)
  have flown : (session.attemptFlight node tearOut).1.Dressed styled none :=
    freed.tryCarrier fun carrier => carrier.rehouses_undock _ session.settings node _ _
  have begun := session.dragBegun_beginDrag node tearOut
  generalize session.beginDrag node tearOut = outcome at begun ⊢
  cases begun with
  | declined hindered => exact dressed
  | unknown alone missing => exact freed
  | failed alone placed found tried =>
      rw [tried] at flown
      exact flown.undoTearOut node _ _ _
  | @launched _ attempted alone found tried =>
      rw [tried] at flown
      have bound := flown.update node (fun dockable =>
        { dockable with activeTarget := none, originTarget := tearOut.origin }) fun _ => rfl
      exact (bound.enterPhase node .dragging).stay rfl (.refl _)

theorem settleUndocked (node : NodeId) (root : Point) :
    (session.settleUndocked node root).Dressed styled none := by
  have left : (session.leaveActiveTarget node).Dressed styled none := by
    unfold leaveActiveTarget
    split
    · exact dressed
    · exact (dressed.update node (fun dockable => { dockable with activeTarget := none })
        fun _ => rfl).stay rfl (.refl _)
  have settled := ((left.settleCarrier node root).afterRelease node).update node
    (fun dockable => { dockable with originTarget := none }) fun _ => rfl
  have rested := settled.enterPhase node .undocked
  unfold Session.settleUndocked
  dsimp only
  split
  · exact rested.stay rfl (.refl _)
  · exact rested

theorem releaseUndocked (node : NodeId) (root : Point) :
    (session.releaseUndocked node root).Dressed styled none := by
  have settled := dressed.settleUndocked node root
  unfold Session.releaseUndocked
  generalize session.settleUndocked node root = rested at settled ⊢
  have asked : ({ rested with desktop := (rested.desktop.confirm rested.settings.confirmTitle
      rested.settings.confirmMessage).1 } : Session).Dressed styled none :=
    settled.stay rfl (.refl _)
  dsimp only
  split
  · split
    · exact asked
    · exact asked.destroyWidget node
  · exact settled

end Dressed
end Session
end Docking

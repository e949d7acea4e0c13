import Docking.Proofs.Flight.Session
import Docking.Proofs.Twins.Scene

namespace Docking

/-! Two sessions that differ in how one dockable is carried, and in nothing else that can be
seen. Whatever is done to both leaves them so. -/

def Dockable.bare (dockable : Dockable) : Dockable :=
  { dockable with carrier := .new .generic }

theorem Dockable.eq_of_bare_eq {first second : Dockable} (same : second.bare = first.bare) :
    second = { first with carrier := second.carrier } :=
  congrArg (fun dockable : Dockable => { dockable with carrier := second.carrier }) same

theorem Dockable.veil_paint (dockable : Dockable) (node : NodeId) (inside : NodeId → Bool)
    (tree : Tree) :
    (dockable.paint node tree).veil inside = dockable.paint node (tree.veil inside) := by
  unfold paint
  dsimp only
  cases dockable.style.label with
  | none => exact tree.veil_setBackground inside _ _
  | some label =>
      dsimp only
      rw [Tree.veil_setLabel, Tree.veil_setBackground]

namespace Session

/-- The same to anyone who sees neither through the veil nor how dockables are carried. -/
structure Alike (inside : NodeId → Bool) (known : WindowId → Prop) (first second : Session) :
    Prop where
  scene : Scene.Alike inside known first.toScene second.toScene
  settings_eq : second.settings = first.settings
  dockables_eq : second.dockables.mapValues (fun _ => Dockable.bare) =
    first.dockables.mapValues fun _ => Dockable.bare
  inFlight_eq : second.inFlight = first.inFlight
  outbox_eq : second.outbox = first.outbox

variable {inside : NodeId → Bool} {known : WindowId → Prop}

namespace Alike

variable {first second third : Session}

theorem refl (session : Session) : Alike inside known session session :=
  ⟨.refl _, rfl, rfl, rfl, rfl⟩

theorem symm (alike : Alike inside known first second) : Alike inside known second first where
  scene := alike.scene.symm
  settings_eq := alike.settings_eq.symm
  dockables_eq := alike.dockables_eq.symm
  inFlight_eq := alike.inFlight_eq.symm
  outbox_eq := alike.outbox_eq.symm

theorem trans (left : Alike inside known first second) (right : Alike inside known second third) :
    Alike inside known first third where
  scene := left.scene.trans right.scene
  settings_eq := right.settings_eq.trans left.settings_eq
  dockables_eq := right.dockables_eq.trans left.dockables_eq
  inFlight_eq := right.inFlight_eq.trans left.inFlight_eq
  outbox_eq := right.outbox_eq.trans left.outbox_eq

theorem dockable?_of_some (alike : Alike inside known first second) {node : NodeId}
    {dockable : Dockable} (found : first.dockable? node = some dockable) :
    ∃ carrier, second.dockable? node = some { dockable with carrier } := by
  have same := congrArg (Table.get? · node) alike.dockables_eq
  simp only [Table.get?_mapValues] at same
  rw [show first.dockables.get? node = some dockable from found, Option.map_some] at same
  obtain ⟨other, known, bare_eq⟩ := Option.map_eq_some_iff.mp same
  exact ⟨other.carrier, known.trans (congrArg some (Dockable.eq_of_bare_eq bare_eq))⟩

theorem dockable?_of_none (alike : Alike inside known first second) {node : NodeId}
    (unknown : first.dockable? node = none) : second.dockable? node = none := by
  cases found : second.dockable? node with
  | none => rfl
  | some dockable =>
      obtain ⟨_, known⟩ := alike.symm.dockable?_of_some found
      cases unknown.symm.trans known

theorem keys_eq (alike : Alike inside known first second) :
    second.dockables.keys = first.dockables.keys := by
  have same := congrArg Table.keys alike.dockables_eq
  rwa [Table.keys_mapValues, Table.keys_mapValues] at same

theorem bind_dockable? (alike : Alike inside known first second) (node : NodeId) {Result : Type}
    {read : Dockable → Option Result}
    (plain : ∀ dockable carrier, read { dockable with carrier } = read dockable) :
    (second.dockable? node).bind read = (first.dockable? node).bind read := by
  cases found : first.dockable? node with
  | none => rw [alike.dockable?_of_none found]
  | some dockable =>
      obtain ⟨carrier, same⟩ := alike.dockable?_of_some found
      rw [same]
      exact plain dockable carrier

theorem activeTarget_eq (alike : Alike inside known first second) (node : NodeId) :
    (second.dockable? node).bind Dockable.activeTarget =
      (first.dockable? node).bind Dockable.activeTarget :=
  alike.bind_dockable? node fun _ _ => rfl

theorem armedChild?_eq (alike : Alike inside known first second) (target : NodeId) :
    second.armedChild? target = first.armedChild? target := by
  have parent?_eq (node : NodeId) : second.tree.parent? node = first.tree.parent? node :=
    alike.scene.read (·.parent? node) fun tree => tree.parent?_veil inside node
  have bared (session : Session) :
      session.armedChild? target =
        (session.dockables.mapValues fun _ => Dockable.bare).findKey? fun node dockable =>
          dockable.phase = .docked && session.tree.parent? node = some target &&
            dockable.pressExceeds session.settings.tearOutThreshold := by
    rw [Table.findKey?_mapValues]
    rfl
  rw [bared, bared, alike.dockables_eq, alike.settings_eq]
  simp only [parent?_eq]

variable (alike : Alike inside known first second)
include alike

theorem update (node : NodeId) (change : Dockable → Dockable)
    (plain : ∀ dockable, (change dockable).bare = change dockable.bare) :
    Alike inside known (first.update node change) (second.update node change) where
  scene := alike.scene
  settings_eq := alike.settings_eq
  dockables_eq := by
    have commutes (table : Table NodeId Dockable) :
        (table.modify node change).mapValues (fun _ => Dockable.bare) =
          (table.mapValues fun _ => Dockable.bare).modify node change :=
      table.mapValues_modify node (fun dockable _ => plain dockable) fun _ _ _ => rfl
    exact (commutes _).trans ((congrArg (Table.modify · node change) alike.dockables_eq).trans
      (commutes _).symm)
  inFlight_eq := alike.inFlight_eq
  outbox_eq := alike.outbox_eq

theorem notify (target : NodeId) (event : Event) :
    Alike inside known (first.notify target event) (second.notify target event) :=
  { alike with outbox_eq := congrArg (· ++ [Notice.mk target event]) alike.outbox_eq }

theorem withInFlight (inFlight : Option NodeId) :
    Alike inside known { first with inFlight } { second with inFlight } :=
  { alike with inFlight_eq := rfl }

omit alike in
theorem replant {inside' : NodeId → Bool} (alike : Alike inside known first second)
    {tree tree' : Tree} (tree_eq : tree'.veil inside' = tree.veil inside') :
    Alike inside' known { first with tree := tree } { second with tree := tree' } :=
  ⟨⟨tree_eq, alike.scene.desktop⟩, alike.settings_eq, alike.dockables_eq, alike.inFlight_eq,
    alike.outbox_eq⟩

theorem edit {change : Tree → Tree}
    (commutes : ∀ tree, (change tree).veil inside = change (tree.veil inside)) :
    Alike inside known { first with tree := change first.tree }
      { second with tree := change second.tree } :=
  alike.replant (by rw [commutes, alike.scene.tree_eq, commutes])

theorem repaint (node : NodeId) :
    Alike inside known (first.repaint node) (second.repaint node) := by
  unfold Session.repaint
  cases found : first.dockable? node with
  | none =>
      rw [alike.dockable?_of_none found]
      exact alike
  | some dockable =>
      obtain ⟨carrier, same⟩ := alike.dockable?_of_some found
      rw [same]
      exact alike.edit fun tree => dockable.veil_paint node inside tree

theorem enterPhase (node : NodeId) (phase : Phase) :
    Alike inside known (first.enterPhase node phase) (second.enterPhase node phase) :=
  (alike.update node (fun dockable => dockable.withPhase phase) fun _ => rfl).repaint node

theorem leaveActiveTarget (node : NodeId) :
    Alike inside known (first.leaveActiveTarget node) (second.leaveActiveTarget node) := by
  unfold Session.leaveActiveTarget
  rw [alike.activeTarget_eq node]
  cases (first.dockable? node).bind Dockable.activeTarget with
  | none => exact alike
  | some target =>
      have cleared := alike.update node (fun dockable => { dockable with activeTarget := none })
        fun _ => rfl
      exact cleared.notify target .dockLeave

theorem forgetTargets (destroyed : List NodeId) (node : NodeId) :
    Alike inside known (forgetTargets destroyed first node)
      (forgetTargets destroyed second node) := by
  unfold Session.forgetTargets
  cases found : first.dockable? node with
  | none =>
      rw [alike.dockable?_of_none found]
      exact alike
  | some dockable =>
      obtain ⟨carrier, same⟩ := alike.dockable?_of_some found
      rw [same]
      have cleared := alike.update node (fun dockable => { dockable with
        originTarget :=
          if leadsInto destroyed dockable.originTarget then none else dockable.originTarget
        activeTarget :=
          if leadsInto destroyed dockable.activeTarget then none
          else dockable.activeTarget }) fun _ => rfl
      dsimp only
      split
      · exact cleared.enterPhase node .dragging
      · exact cleared

end Alike

theorem alike_act (session : Session) (node : NodeId) {scene : Scene} (carrier : Carrier)
    (alike : Scene.Alike inside known session.toScene scene) :
    Alike inside known session ({ session with toScene := scene }.update node fun dockable =>
      { dockable with carrier }) where
  scene := alike
  settings_eq := rfl
  dockables_eq := by
    dsimp only [update]
    apply Table.mapValues_modify_of_eq
    exact fun _ _ => rfl
  inFlight_eq := rfl
  outbox_eq := rfl

theorem alike_afterRelease (session : Session) (node : NodeId) :
    Alike inside known session (session.withCarrier node Carrier.afterRelease) := by
  unfold withCarrier
  split
  · exact .refl session
  · next dockable _ =>
      refine session.alike_act node _ ⟨?_, (dockable.carrier.respects_afterRelease _).alike⟩
      rw [Carrier.tree_afterRelease]

structure Sole (owned : WindowId → Prop) (node : NodeId) (session : Session) : Prop where
  alone : ∀ other, other ≠ node → session.dockable? other = none
  owned : ∀ dockable window, session.dockable? node = some dockable →
    dockable.window = some window → owned window

namespace Sole

variable {owned : WindowId → Prop} {node : NodeId} {session : Session}

theorem transfer {after : Session} (sole : Sole owned node session)
    (dockable?_eq : ∀ other, after.dockable? other = session.dockable? other) :
    Sole owned node after where
  alone other different := (dockable?_eq other).trans (sole.alone other different)
  owned dockable window found := sole.owned dockable window ((dockable?_eq node).symm.trans found)

theorem update (sole : Sole owned node session) {other : NodeId} {change : Dockable → Dockable}
    (kept : ∀ dockable window, session.dockable? node = some dockable →
      (change dockable).window = some window → owned window) :
    Sole owned node (session.update other change) where
  alone next different := by
    rw [dockable?_update]
    split
    · next same =>
        rw [← same, sole.alone next different]
        rfl
    · exact sole.alone next different
  owned dockable window found owns := by
    rw [dockable?_update] at found
    split at found
    · next same =>
        rw [← same] at found
        obtain ⟨before, known, rfl⟩ := Option.map_eq_some_iff.mp found
        exact kept before window known owns
    · exact sole.owned dockable window found owns

variable (sole : Sole owned node session)
include sole

theorem enterPhase (other : NodeId) (phase : Phase) :
    Sole owned node (session.enterPhase other phase) := by
  have entered : Sole owned node
      (session.update other fun dockable => dockable.withPhase phase) :=
    sole.update fun dockable window found owns => sole.owned dockable window found owns
  unfold Session.enterPhase repaint
  split
  · exact entered
  · exact entered.transfer fun _ => rfl

theorem forgetDockable (destroyed : List NodeId) (other : NodeId) :
    Sole owned node (forgetDockable destroyed session other) := by
  rcases session.forgetDockable_cases other destroyed with ⟨_, same⟩ | ⟨_, _, _, _, same⟩
  · rw [same]
    exact sole
  · rw [same]
    constructor
    · intro next different
      rw [dockable?, Table.get?_erase]
      split
      · rfl
      · exact sole.alone next different
    · intro dockable window found owns
      rw [dockable?, Table.get?_erase] at found
      split at found
      · cases found
      · exact sole.owned dockable window found owns

theorem forgetTargets (destroyed : List NodeId) (other : NodeId) :
    Sole owned node (forgetTargets destroyed session other) := by
  unfold Session.forgetTargets
  split
  · exact sole
  · have cleared : Sole owned node (session.update other fun dockable => { dockable with
        originTarget :=
          if leadsInto destroyed dockable.originTarget then none else dockable.originTarget
        activeTarget :=
          if leadsInto destroyed dockable.activeTarget then none
          else dockable.activeTarget }) :=
      sole.update fun dockable window found owns => sole.owned dockable window found owns
    dsimp only
    split
    · exact cleared.enterPhase other .dragging
    · exact cleared

theorem syncDestroyed : Sole owned node session.syncDestroyed :=
  syncDestroyed_induction (sole.transfer fun _ => rfl)
    (fun _ other kept => kept.forgetDockable _ other) fun _ other kept => kept.forgetTargets _ other

end Sole

namespace Alike

variable {first second : Session} {owned : WindowId → Prop} {node : NodeId}
  (alike : Alike inside known first second) (sole : Sole owned node first)
  (sole' : Sole owned node second)
  (unseen : ∀ window, owned window → inside node = true ∧ ¬ known window)
include alike sole sole' unseen

theorem forgetDockable (destroyed : List NodeId) (other : NodeId) :
    Alike inside known (forgetDockable destroyed first other)
      (forgetDockable destroyed second other) := by
  unfold Session.forgetDockable
  cases found : first.dockable? other with
  | none =>
      rw [alike.dockable?_of_none found]
      exact alike
  | some dockable =>
      obtain ⟨carrier, same⟩ := alike.dockable?_of_some found
      have here : other = node := by
        by_contra different
        cases found.symm.trans (sole.alone other different)
      subst here
      rw [same]
      have released := dockable.carrier.alike_release first.toScene fun window owns =>
        unseen window (sole.owned dockable window found owns)
      have released' := carrier.alike_release second.toScene fun window owns =>
        unseen window (sole'.owned _ window same owns)
      have left : Alike inside known
          { first with
            toScene := (dockable.carrier.release first.toScene other).2
            dockables := first.dockables.erase other }
          { second with
            toScene := (carrier.release second.toScene other).2
            dockables := second.dockables.erase other } := by
        refine ⟨(released.symm.trans alike.scene).trans released', alike.settings_eq, ?_,
          alike.inFlight_eq, alike.outbox_eq⟩
        dsimp only
        rw [Table.mapValues_erase, Table.mapValues_erase, alike.dockables_eq]
      have flies : second.inFlight = some other ↔ first.inFlight = some other := by
        rw [alike.inFlight_eq]
      simp only [flies]
      split
      · cases dockable.activeTarget with
        | none => exact left.withInFlight none
        | some target =>
            dsimp only
            split
            · exact left.withInFlight none
            · exact (left.withInFlight none).notify target .dockLeave
      · exact left

theorem syncDestroyed : Alike inside known first.syncDestroyed second.syncDestroyed := by
  have destroyed_eq : second.tree.destroyed = first.tree.destroyed :=
    alike.scene.read Tree.destroyed fun _ => rfl
  have dismissed (destroyed nodes : List NodeId) (first second : Session)
      (alike : Alike inside known first second) (sole : Sole owned node first)
      (sole' : Sole owned node second) :
      Alike inside known (nodes.foldl (Session.forgetDockable destroyed) first)
        (nodes.foldl (Session.forgetDockable destroyed) second) := by
    induction nodes generalizing first second with
    | nil => exact alike
    | cons other rest induction =>
        exact induction _ _ (alike.forgetDockable sole sole' unseen destroyed other)
          (sole.forgetDockable destroyed other) (sole'.forgetDockable destroyed other)
  have cleared (destroyed nodes : List NodeId) (first second : Session)
      (alike : Alike inside known first second) :
      Alike inside known (nodes.foldl (Session.forgetTargets destroyed) first)
        (nodes.foldl (Session.forgetTargets destroyed) second) := by
    induction nodes generalizing first second with
    | nil => exact alike
    | cons other rest induction => exact induction _ _ (alike.forgetTargets destroyed other)
  unfold Session.syncDestroyed
  rw [destroyed_eq]
  cases first.tree.destroyed with
  | nil => exact alike
  | cons head rest =>
      have taken : Alike inside known { first with tree := first.tree.forgetDestroyed }
          { second with tree := second.tree.forgetDestroyed } := alike.edit fun _ => rfl
      have left := dismissed (head :: rest) (head :: rest) _ _ taken
        (sole.transfer fun _ => rfl) (sole'.transfer fun _ => rfl)
      dsimp only
      rw [left.keys_eq]
      exact cleared _ _ _ _ left

theorem destroyWidget (target : NodeId) :
    Alike inside known (first.destroyWidget target) (second.destroyWidget target) := by
  have removed : Alike inside known { first with tree := (first.tree.destroy target).1 }
      { second with tree := (second.tree.destroy target).1 } :=
    alike.edit fun tree => tree.veil_destroy inside target
  exact removed.syncDestroyed (sole.transfer fun _ => rfl) (sole'.transfer fun _ => rfl) unseen

end Alike
end Session
end Docking

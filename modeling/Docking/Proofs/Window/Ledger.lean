import Docking.Proofs.Window.Operation

namespace Docking

/-! No window is leaked, shared or orphaned: after any run in which the application keeps
its hands off the dockables and their windows, and whatever requests the windowing system
has failed. -/

namespace Session

/-- The registry, the tree and the windowing system agree about the windows of dockables,
and no window of those that were `made` for dockables is left behind. -/
structure Settled (made : List WindowId) (session : Session) : Prop where
  window?_eq : ∀ node dockable, session.dockable? node = some dockable →
    session.tree.contains node = true → session.tree.window? node = dockable.window
  docked : ∀ node dockable, session.dockable? node = some dockable →
    session.tree.contains node = true → dockable.phase = .docked →
      (session.tree.parent? node).isSome = true ∧ dockable.window = none
  root : ∀ node dockable, session.dockable? node = some dockable →
    session.tree.contains node = true → dockable.phase ≠ .docked →
      session.tree.parent? node = none
  hasWindow : ∀ node dockable window, session.dockable? node = some dockable →
    dockable.window = some window → session.desktop.hasWindow window = true
  distinct : ∀ first second firstDockable secondDockable window,
    session.dockable? first = some firstDockable → firstDockable.window = some window →
      session.dockable? second = some secondDockable → secondDockable.window = some window →
        first = second
  dockableForWindow?_iff : ∀ window node, session.dockableForWindow? window = some node ↔
    ∃ dockable, session.dockable? node = some dockable ∧ dockable.window = some window
  owned_of_made : ∀ window ∈ made, session.desktop.hasWindow window = true →
    ∃ node dockable, session.dockable? node = some dockable ∧ dockable.window = some window

variable {session : Session}

theorem window?_lodgings_iff (node : NodeId) (window : WindowId) :
    session.lodgings.window? node = some window ↔
      ∃ dockable, session.dockable? node = some dockable ∧ dockable.window = some window := by
  rw [Lodgings.window?, lodgings, Option.bind_map, Option.bind_eq_some_iff]
  rfl

theorem dockableForWindow?_iff_of_distinct {window : WindowId}
    (distinct : ∀ first second, session.lodgings.window? first = some window →
      session.lodgings.window? second = some window → first = second) (node : NodeId) :
    session.dockableForWindow? window = some node ↔
      ∃ dockable, session.dockable? node = some dockable ∧ dockable.window = some window := by
  have sound {node : NodeId} (found : session.dockableForWindow? window = some node) :
      ∃ dockable, session.dockable? node = some dockable ∧ dockable.window = some window := by
    obtain ⟨dockable, known, owns⟩ := Table.findKey?_sound found
    exact ⟨dockable, known, of_decide_eq_true owns⟩
  refine ⟨sound, fun ⟨dockable, known, owns⟩ => ?_⟩
  obtain ⟨other, found⟩ : ∃ other, session.dockableForWindow? window = some other :=
    Table.findKey?_complete known (decide_eq_true owns)
  have same := distinct other node ((window?_lodgings_iff other window).mpr (sound found))
    ((window?_lodgings_iff node window).mpr ⟨dockable, known, owns⟩)
  rw [← same]
  exact found

theorem Tidy.settled {made : List WindowId} {bound : Nat}
    (tidy : session.Tidy ⟨fun window => window ∉ made, bound⟩) : session.Settled made where
  window?_eq node dockable found present := by
    have fits := tidy.fits node _ (lodgings_of_dockable? found) id
    rw [Tree.contains_eq_isSome] at present
    obtain ⟨mooring, moored⟩ := Option.isSome_iff_exists.mp present
    rw [moored] at fits
    rw [Tree.window?_eq_bind, moored]
    exact fits.1
  docked node dockable found present docked := by
    obtain ⟨parent, linked⟩ := tidy.parent?_of_docked found docked present
    exact ⟨linked ▸ rfl, (tidy.docked_of_parent? (lodgings_of_dockable? found) id linked).2⟩
  root node dockable found _ free := by
    obtain ⟨window, attends⟩ := tidy.attends_of_roams (roams_of_dockable? found free)
    exact attends.hosts.parent?_eq
  hasWindow node dockable window found owns :=
    tidy.hasWindow node window ((window?_lodgings_iff node window).mpr ⟨dockable, found, owns⟩)
  distinct first second firstDockable secondDockable window found owns secondFound secondOwns :=
    tidy.distinct first second window
      ((window?_lodgings_iff first window).mpr ⟨firstDockable, found, owns⟩)
      ((window?_lodgings_iff second window).mpr ⟨secondDockable, secondFound, secondOwns⟩)
  dockableForWindow?_iff window := dockableForWindow?_iff_of_distinct fun first second =>
    tidy.distinct first second window
  owned_of_made window listed present := by
    obtain ⟨node, owned⟩ := (tidy.accounted window present).resolve_left fun strange =>
      strange listed
    exact ⟨node, (window?_lodgings_iff node window).mp owned⟩

end Session

theorem House.resurvey {survey other : Survey} {adrift : NodeId → Prop} {lodgings : Lodgings}
    {scene : Scene} (house : House survey adrift lodgings scene)
    (foreign : ∀ window, scene.desktop.hasWindow window = true → survey.foreign window →
      other.foreign window)
    (nextNumber_le : other.nextNumber ≤ scene.desktop.nextNumber) :
    House other adrift lodgings scene :=
  { house with
    nextNumber_le
    accounted := fun window present =>
      (house.accounted window present).imp_left (foreign window present) }

/-- A session with a list of all windows that docking has made in it so far. -/
structure Ledger where
  session : Session
  made : List WindowId

namespace Ledger

def start (capabilities : Capabilities) (settings : Settings) : Ledger :=
  ⟨.start (.withCapabilities capabilities) settings, []⟩

def newWindows (before after : Desktop) : List WindowId :=
  after.windows.keys.filter fun window => !before.hasWindow window

/-- Windows that come with a command are the application's own. -/
def advance (ledger : Ledger) (operation : Session.Operation) : Ledger :=
  let after := ledger.session.perform operation
  match operation with
  | .command _ => ⟨after, ledger.made⟩
  | _ => ⟨after, ledger.made ++ newWindows ledger.session.desktop after.desktop⟩

inductive Reachable (capabilities : Capabilities) (settings : Settings) : Ledger → Prop
  | start : Reachable capabilities settings (start capabilities settings)
  | step {ledger : Ledger} {operation : Session.Operation}
      (reachable : Reachable capabilities settings ledger)
      (spares : ledger.session.Spares operation) :
      Reachable capabilities settings (ledger.advance operation)

theorem mem_newWindows_iff (before after : Desktop) (window : WindowId) :
    window ∈ newWindows before after ↔
      after.hasWindow window = true ∧ before.hasWindow window = false := by
  rw [newWindows, List.mem_filter, Bool.not_eq_true', ← after.windows.contains_iff]
  rfl

structure Balanced (ledger : Ledger) : Prop where
  orderly : ledger.session.Orderly
  tidy : ledger.session.Tidy ⟨fun window => window ∉ ledger.made, 0⟩
  made_lt : ∀ window ∈ ledger.made, window.number < ledger.session.desktop.nextNumber

namespace Balanced

theorem start (capabilities : Capabilities) (settings : Settings) :
    (start capabilities settings).Balanced where
  orderly := .start _ settings
  tidy :=
    { wellFormed := Tree.wellFormed_empty
      numbered := Desktop.numbered_withCapabilities capabilities
      hasWindow := fun _ _ owned => nomatch owned
      distinct := fun _ _ _ owned => nomatch owned
      accounted := fun _ present => nomatch present
      nextNumber_le := Nat.zero_le _
      fits := fun _ _ lodged => nomatch lodged }
  made_lt _ listed := nomatch listed

variable {ledger : Ledger} (balanced : ledger.Balanced)
include balanced

theorem command {command : Desktop.Command} (spares : ledger.session.Spares (.command command)) :
    (ledger.advance (.command command)).Balanced := by
  obtain ⟨old, new, exchange, closes⟩ := ledger.session.desktop.exchange_obey command
  refine ⟨balanced.orderly.perform (.command command), ?_, fun window listed => ?_⟩
  · refine House.pass balanced.tidy exchange (fun node window owned closed => ?_)
      (fun window opened listed => ?_) balanced.tidy.wellFormed fun _ _ _ _ => rfl
    · obtain ⟨dockable, found, owns⟩ := (Session.window?_lodgings_iff node window).mp owned
      cases closes window closed
      exact spares node dockable found owns
    · exact Nat.not_lt_of_le (exchange.fresh window opened).1 (balanced.made_lt window listed)
  · exact Nat.lt_of_lt_of_le (balanced.made_lt window listed) exchange.nextNumber_le

theorem work {operation : Session.Operation} (spares : ledger.session.Spares operation)
    (inhouse : ∀ command, operation ≠ .command command) :
    Balanced ⟨ledger.session.perform operation, ledger.made ++
      newWindows ledger.session.desktop (ledger.session.perform operation).desktop⟩ := by
  -- during the step all windows are foreign that docking found there and did not make
  have surveyed : ledger.session.Tidy ⟨fun window => window ∉ ledger.made ∧
      ledger.session.desktop.hasWindow window = true, ledger.session.desktop.nextNumber⟩ :=
    House.resurvey balanced.tidy (fun window present strange => ⟨strange, present⟩)
      (Nat.le_refl _)
  have performed := surveyed.perform balanced.orderly spares inhouse
  refine ⟨balanced.orderly.perform operation, ?_, fun window listed => ?_⟩
  · refine House.resurvey performed (fun window _ strange listed => ?_) (Nat.zero_le _)
    rcases List.mem_append.mp listed with earlier | now
    · exact strange.1 earlier
    · rw [mem_newWindows_iff, strange.2] at now
      exact Bool.noConfusion now.2
  · rcases List.mem_append.mp listed with earlier | now
    · exact Nat.lt_of_lt_of_le (balanced.made_lt window earlier) performed.nextNumber_le
    · exact performed.numbered window ((mem_newWindows_iff _ _ window).mp now).1

theorem advance {operation : Session.Operation} (spares : ledger.session.Spares operation) :
    (ledger.advance operation).Balanced := by
  cases operation with
  | command command => exact balanced.command spares
  | _ => exact balanced.work spares fun _ => Session.Operation.noConfusion

end Balanced

theorem settled_of_reachable {capabilities : Capabilities} {settings : Settings}
    {ledger : Ledger} (reachable : Reachable capabilities settings ledger) :
    ledger.session.Settled ledger.made := by
  have balanced : ledger.Balanced := by
    induction reachable with
    | start => exact .start capabilities settings
    | step _ spares balanced => exact balanced.advance spares
  exact balanced.tidy.settled

/-- A dockable torn out of a panel into a window of its own. -/
def tornOut : Ledger :=
  [.edit (.add (.newPanel "stage") .zero),
    .create { DockablePlan.new "tool" with container := some (⟨0⟩, none) },
    .tearOut ⟨1⟩ .zero].foldl advance (start .all .standard)

theorem settled_tornOut :
    Reachable .all .standard tornOut ∧ tornOut.made = [⟨1⟩] ∧
      tornOut.session.Settled tornOut.made := by
  have reachable : Reachable .all .standard tornOut := by
    unfold tornOut
    simp only [List.foldl_cons, List.foldl_nil]
    refine .step (.step (.step .start ?_) ?_) ?_
    · exact .inr fun _ subject => nomatch subject
    · trivial
    · trivial
  exact ⟨reachable, rfl, settled_of_reachable reachable⟩

end Ledger
end Docking

import Docking.Proofs.Tree.Placement
import Docking.Proofs.Window.Departure

namespace Docking.Session

/-! Drags that begin, and drags that end without docking, leave the records in agreement,
also when the windowing system fails them halfway. -/

variable {session : Session} {node : NodeId} {survey : Survey}

theorem Attends.of_house {docked : Bool} {parent : Option NodeId} {window : Option WindowId}
    (house : House survey (· = node) session.lodgings session.toScene)
    (lodged : session.lodgings node = some ⟨docked, window⟩)
    (mooring?_eq : session.tree.mooring? node = some ⟨parent, window⟩) :
    Attends survey session.tree.mooring? node docked parent window session where
  lodged := lodged
  hosts := by
    refine ⟨?_, mooring?_eq, fun _ _ => rfl⟩
    rw [← lodged, Function.update_eq_self]
    exact house

namespace Tidy

variable (tidy : session.Tidy survey)
include tidy

theorem attends_of_roams (roams : session.Roams node) :
    ∃ window, Attends survey session.tree.mooring? node false none window session := by
  obtain ⟨window, lodged⟩ := roams
  exact ⟨window, .of_house (House.mono tidy fun _ drifts => drifts.elim) lodged
    (tidy.mooring?_of_free lodged id rfl)⟩

variable {dockable : Dockable} (found : session.dockable? node = some dockable)
include found

theorem attends_of_parent? {parent : NodeId}
    (linked : session.tree.parent? node = some parent) :
    Attends survey session.tree.mooring? node true (some parent) none session := by
  have lodged := lodgings_of_dockable? found
  obtain ⟨docked, unowned⟩ := tidy.docked_of_parent? lodged id linked
  have lodging_eq : dockable.lodging = ⟨true, none⟩ := by
    rw [← docked, ← unowned]
  rw [lodging_eq] at lodged
  have fits := tidy.fits node _ lodged id
  rw [Tree.parent?_eq_bind] at linked
  obtain ⟨mooring, moored, parent_eq⟩ := Option.bind_eq_some_iff.mp linked
  rw [moored] at fits
  refine .of_house (House.mono tidy fun _ drifts => drifts.elim) lodged ?_
  have unshown : mooring.window = none := fits.1
  rw [moored, ← parent_eq, ← unshown]

theorem parent?_of_docked (docked : dockable.phase = .docked)
    (present : session.tree.contains node = true) :
    ∃ parent, session.tree.parent? node = some parent := by
  have fits := tidy.fits node _ (lodgings_of_dockable? found) id
  rw [Tree.contains_eq_isSome] at present
  obtain ⟨mooring, moored⟩ := Option.isSome_iff_exists.mp present
  rw [moored] at fits
  rw [Tree.parent?_eq_bind, moored, Option.bind_some, ← Option.isSome_iff_exists]
  exact fits.2.trans (decide_eq_true docked)

end Tidy

namespace Attends

variable {moorings : NodeId → Option Mooring} {docked : Bool} {parent : Option NodeId}
  {window : Option WindowId}

theorem relink {above : Option NodeId} {tree : Tree}
    (attends : Attends survey moorings node docked parent window session)
    (wellFormed : tree.WellFormed)
    (elsewhere : ∀ other, other ≠ node → tree.mooring? other = session.tree.mooring? other)
    (mooring?_eq : tree.mooring? node = some ⟨above, window⟩) :
    Attends survey moorings node docked above window { session with tree } where
  lodged := attends.lodged
  hosts := ⟨attends.hosts.house.relink wellFormed fun other _ _ drifts => elsewhere other drifts,
    mooring?_eq, fun other different =>
      (elsewhere other different).trans (attends.hosts.elsewhere other different)⟩

theorem sameLinks {tree : Tree}
    (attends : Attends survey moorings node docked parent window session)
    (same : Tree.SameLinks session.tree tree) :
    Attends survey moorings node docked parent window { session with tree } :=
  ⟨attends.lodged, attends.hosts.sameLinks same⟩

theorem detach (attends : Attends survey moorings node docked parent window session) :
    Attends survey moorings node docked none window
      { session with tree := (session.tree.detach node).1 } := by
  have wellFormed := attends.wellFormed
  refine attends.relink (wellFormed.detach node) (fun other different => ?_) ?_
  · rw [wellFormed.mooring?_detach, if_neg different]
  · rw [wellFormed.mooring?_detach, if_pos rfl, attends.hosts.mooring?_eq]
    rfl

theorem insertChild {above : NodeId} (index : Nat)
    (attends : Attends survey moorings node docked parent none session)
    (admitted : session.tree.admits above node = true) :
    Attends survey moorings node docked (some above) none
      { session with tree := session.tree.insertChild above index node } := by
  have wellFormed := attends.wellFormed
  refine attends.relink (wellFormed.insertChild above index node)
    (fun other different => ?_) ?_
  · exact wellFormed.mooring?_insertChild_of_ne index different
  · rw [wellFormed.mooring?_insertChild index admitted, if_pos rfl]

theorem admits {before after : Session} {earlier later : Option WindowId} {above : NodeId}
    (first : Attends survey moorings node docked parent earlier before)
    (second : Attends survey moorings node docked parent later after)
    (admitted : before.tree.admits above node = true) :
    after.tree.admits above node = true := by
  refine first.wellFormed.admits_congr second.wellFormed (fun other => ?_) (fun other => ?_)
    admitted
  · by_cases same : other = node
    · rw [same, first.hosts.parent?_eq, second.hosts.parent?_eq]
    · rw [Tree.parent?_eq_bind, Tree.parent?_eq_bind, first.hosts.elsewhere other same,
        second.hosts.elsewhere other same]
  · by_cases same : other = node
    · rw [same, Tree.contains_eq_isSome, Tree.contains_eq_isSome, first.hosts.mooring?_eq,
        second.hosts.mooring?_eq]
      rfl
    · rw [Tree.contains_eq_isSome, Tree.contains_eq_isSome, first.hosts.elsewhere other same,
        second.hosts.elsewhere other same]

theorem undoTearOut (attends : Attends survey moorings node docked none window session)
    (layout : Rect) {former : Option (NodeId × Nat)} (root : Point)
    (returns : ∀ slot, former = some slot →
      docked = true ∧ session.tree.admits slot.1 node = true) :
    (session.undoTearOut node layout former root).Tidy survey := by
  have grounded := attends.beforeDock
  unfold Session.undoTearOut
  cases former with
  | none =>
      obtain ⟨kept, settled⟩ := grounded.settleCarrier root
      exact (settled.afterRelease.enterPhase .undocked).tidy rfl
  | some slot =>
      obtain ⟨counts, admitted⟩ := returns slot rfl
      have inserted := grounded.insertChild slot.2 (attends.admits grounded admitted)
      exact (inserted.sameLinks (.place _ node layout)).tidy counts.symm

theorem beginDrag (attends : Attends survey moorings node docked parent window session)
    (tearOut : TearOut) (alone : session.otherInFlight? node = none) {layout : Rect}
    (placed : session.tree.layout? node = some layout)
    (returns : ∀ slot, (session.tree.detach node).2.or tearOut.slot = some slot →
      docked = true ∧ (session.tree.detach node).1.admits slot.1 node = true) :
    (session.beginDrag node tearOut).1.Tidy survey := by
  have freed := attends.detach
  obtain ⟨kept, flown⟩ := freed.undock tearOut.root tearOut.grab
  change Attends _ _ _ _ _ _ (session.attemptFlight node tearOut).1 at flown
  have begun := session.dragBegun_beginDrag node tearOut
  generalize session.beginDrag node tearOut = outcome at begun ⊢
  cases begun with
  | declined hindered =>
      rcases hindered with busy | missing
      · exact absurd alone busy
      · cases missing.symm.trans placed
  | unknown _ missing =>
      obtain ⟨dockable, found, _⟩ := freed.dockable?
      cases missing.symm.trans found
  | failed _ _ _ tried =>
      rw [tried] at flown
      refine flown.undoTearOut _ tearOut.root fun slot former => ?_
      obtain ⟨counts, admitted⟩ := returns slot former
      exact ⟨counts, freed.admits flown admitted⟩
  | launched _ _ tried =>
      rw [tried] at flown
      exact ((flown.update (fun dockable =>
        { dockable with activeTarget := none, originTarget := tearOut.origin })
        fun _ => rfl).enterPhase .dragging).tidy rfl

end Attends

theorem fst_beginDrag_of_otherInFlight? {other : NodeId} (tearOut : TearOut)
    (busy : session.otherInFlight? node = some other) :
    (session.beginDrag node tearOut).1 = session := by
  unfold beginDrag
  rw [busy]

theorem layout?_of_screenRect? {rect : Rect} (shown : session.screenRect? node = some rect) :
    ∃ layout, session.tree.layout? node = some layout := by
  obtain ⟨layout, placed, _⟩ := Option.map_eq_some_iff.mp shown
  exact ⟨layout, placed⟩

namespace Tidy

variable (tidy : session.Tidy survey)
include tidy

theorem tearOut (node : NodeId) (root : Point) : (session.tearOut node root).1.Tidy survey := by
  rcases session.staysPut_or_begins node root with ⟨result, stays⟩ | ⟨dockable, asked, begins⟩
  · rw [stays.unchanged]
    exact tidy
  · obtain ⟨found, _, ⟨rect, shown, _⟩, noSlot, begun⟩ := begins
    obtain ⟨layout, placed⟩ := layout?_of_screenRect? shown
    rw [begun]
    cases alone : session.otherInFlight? node with
    | some other =>
        rw [fst_beginDrag_of_otherInFlight? asked alone]
        exact tidy
    | none =>
        by_cases docked : dockable.phase = .docked
        · obtain ⟨parent, linked⟩ := tidy.parent?_of_docked found docked
            (Tree.contains_of_layout? placed)
          refine (tidy.attends_of_parent? found linked).beginDrag asked alone placed
            fun slot former => ⟨rfl, ?_⟩
          obtain ⟨index, slot_eq⟩ := tidy.wellFormed.detach_snd_of_parent? linked
          rw [slot_eq] at former
          cases former
          exact tidy.wellFormed.admits_detach linked
        · obtain ⟨window, attends⟩ := tidy.attends_of_roams (roams_of_dockable? found docked)
          refine attends.beginDrag asked alone placed fun slot former => ?_
          rw [Tree.detach_of_parent?_eq_none attends.hosts.parent?_eq, noSlot] at former
          cases former

theorem request {desktop : Desktop}
    (exchange : Desktop.Exchange none none session.desktop desktop) :
    Tidy survey { session with desktop } :=
  House.request tidy exchange

theorem settleUndocked (roams : session.Roams node) (root : Point) :
    (session.settleUndocked node root).Tidy survey := by
  obtain ⟨window, attends⟩ := tidy.attends_of_roams roams
  exact attends.settleUndocked root

theorem releaseUndocked (roams : session.Roams node) (root : Point) :
    (session.releaseUndocked node root).Tidy survey := by
  have settled := tidy.settleUndocked roams root
  unfold Session.releaseUndocked
  generalize session.settleUndocked node root = rested at settled ⊢
  have asked : Tidy survey { rested with
      desktop := (rested.desktop.confirm rested.settings.confirmTitle
        rested.settings.confirmMessage).1 } :=
    settled.request (.of_same (fun _ => rfl) rfl)
  dsimp only
  split
  · split
    · exact asked
    · exact asked.destroyWidget node
  · exact settled

end Tidy

namespace Tidy

variable (tidy : session.Tidy survey)
include tidy

theorem forceUndocked (node : NodeId) : (session.forceUndocked node).1.Tidy survey := by
  unfold Session.forceUndocked
  split
  · exact tidy
  · next dockable found =>
      split
      · exact tidy
      · exact tidy
      · next phase =>
          have roams := roams_of_isInFlight found (congrArg Phase.isInFlight phase)
          exact tidy.settleUndocked roams _
      · next phase =>
          have roams := roams_of_isInFlight found (congrArg Phase.isInFlight phase)
          exact tidy.settleUndocked roams _

theorem startInteractiveResize (node : NodeId) (edge : ResizeEdge) :
    (session.startInteractiveResize node edge).1.Tidy survey := by
  unfold Session.startInteractiveResize
  split
  · exact tidy
  · next dockable found =>
      split
      · exact tidy
      · have tree_eq := dockable.carrier.tree_startInteractiveResize session.toScene edge
        have exchange := dockable.carrier.exchange_startInteractiveResize session.toScene edge
        generalize dockable.carrier.startInteractiveResize session.toScene edge = asked
          at tree_eq exchange ⊢
        obtain ⟨⟨tree, desktop⟩, result⟩ := asked
        cases tree_eq
        exact tidy.request exchange

variable {dockable : Dockable} (found : session.dockable? node = some dockable)
include found

theorem interruption? {event : Event} {outcome : Session × Status}
    (interrupted : session.interruption? node dockable event = some outcome) :
    outcome.1.Tidy survey := by
  unfold Session.interruption? at interrupted
  split at interrupted
  · split at interrupted
    · next flying =>
        cases interrupted
        exact tidy.settleUndocked (roams_of_isInFlight found flying) _
    · cases interrupted
  · split at interrupted
    · next flying =>
        cases interrupted
        rw [Bool.and_eq_true] at flying
        exact tidy.settleUndocked (roams_of_isInFlight found flying.1) _
    · cases interrupted
  · split at interrupted
    · cases interrupted
      exact tidy.update node _ fun _ _ => rfl
    · cases interrupted
  · split at interrupted
    · cases interrupted
      dsimp only
      split
      · next flying => exact tidy.settleUndocked (roams_of_isInFlight found flying) _
      · split
        · exact tidy.destroyWidget node
        · exact tidy
    · cases interrupted
  · split at interrupted
    · next flying =>
        cases interrupted
        exact tidy.releaseUndocked (roams_of_isInFlight found flying) _
    · cases interrupted
  · cases interrupted

theorem respond (gesture : Gesture) :
    (session.respond node dockable.phase gesture).1.Tidy survey := by
  cases gesture with
  | ignored => exact tidy
  | pressed root => exact tidy
  | motion root =>
      cases dockable.phase with
      | undocked =>
          dsimp only [Session.respond]
          split
          · split
            · exact tidy.tearOut node root
            · exact tidy
          · exact tidy
      | dragging => exact tidy
      | hovering => exact tidy
      | docked => exact tidy
  | released root =>
      cases phase : dockable.phase with
      | undocked => exact tidy
      | dragging =>
          have roams := roams_of_isInFlight found (congrArg Phase.isInFlight phase)
          exact tidy.releaseUndocked roams root
      | hovering =>
          have roams := roams_of_isInFlight found (congrArg Phase.isInFlight phase)
          dsimp only [Session.respond]
          split
          · exact tidy
          · exact tidy.releaseUndocked roams root
      | docked => exact tidy

theorem gesture (event : Event) : (session.gesture node dockable event).1.Tidy survey := by
  have tree_eq := dockable.carrier.tree_handle session.toScene dockable.press
    dockable.isInFlight event
  have exchange := dockable.carrier.exchange_handle session.toScene dockable.press
    dockable.isInFlight event
  unfold Session.gesture
  generalize dockable.carrier.handle session.toScene dockable.press dockable.isInFlight
    event = handled at tree_eq exchange ⊢
  obtain ⟨⟨tree, desktop⟩, press, gesture⟩ := handled
  cases tree_eq
  have updated := (tidy.request exchange).update node (fun dockable =>
    { dockable with press }) fun _ _ => rfl
  have refound : ({ session with desktop }.update node fun dockable =>
      { dockable with press }).dockable? node = some { dockable with press } := by
    rw [dockable?_update, if_pos rfl]
    exact congrArg (Option.map _) found
  exact updated.respond refound gesture

omit found in
theorem payloadEvent (node : NodeId) (event : Event) :
    (session.payloadEvent node event).1.Tidy survey := by
  unfold Session.payloadEvent
  split
  · exact tidy
  · next dockable found =>
      split
      · next interrupted => exact tidy.interruption? found interrupted
      · exact tidy.gesture found event

end Tidy
end Docking.Session

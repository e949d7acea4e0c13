import Docking.Proofs.Session.Press
import Docking.Proofs.Window.Gear

namespace Docking

/-! Docking moves a window in one way only: it follows the pointer for the dockable in flight,
and keeps the pointer where it took hold of the dockable. -/

theorem Desktop.moves_moveWindow (desktop : Desktop) (window : WindowId) (position : Point) :
    (desktop.moveWindow window position).1.moves = desktop.moves ++ [(window, position)] := by
  simp only [moveWindow, attempt]
  cases desktop.faults (.moveWindow window position) desktop.requests with
  | some report => simp [moves]
  | none =>
      dsimp only
      split
      · simp [moves]
      · split
        · simp [moves]
        · simp [moves, record]

namespace Carrier

variable {carrier : Carrier} (scene : Scene) (root : Point)

theorem moves_follow {grab : Point} {window : WindowId} (means : carrier.means = .generic grab)
    (owns : carrier.window = some window) :
    (carrier.follow scene root).desktop.moves = scene.desktop.moves ++ [(window, root - grab)] := by
  unfold follow
  rw [means, owns]
  exact scene.desktop.moves_moveWindow window _

theorem follow_of_kind (other : carrier.kind ≠ .generic) : carrier.follow scene root = scene := by
  unfold follow
  split
  · next means _ => exact absurd (by rw [kind, means]) other
  · rfl

theorem fst_handle_pointerMove (press : Option Press) :
    (carrier.handle scene press true (.pointerMove root)).1 = carrier.follow scene root := by
  cases press <;> rfl

theorem means_of_kind (generic : carrier.kind = .generic) :
    ∃ grab, carrier.means = .generic grab := by
  unfold kind at generic
  split at generic
  · next grab means => exact ⟨grab, means⟩
  · cases generic
  · cases generic

end Carrier

namespace Session

variable {session initial : Session} {node : NodeId} {operation : Operation}
  {earlier later : Dockable} {root : Point} {operations late : List Operation}

inductive Pursues (session : Session) (node : NodeId) (root : Point) : Operation → Prop
  | intro {dockable : Dockable} (flying : session.inFlight = some node)
      (found : session.dockable? node = some dockable)
      (generic : dockable.carrier.kind = .generic) :
      Pursues session node root (.payloadEvent node (.pointerMove root))

theorem moves_tracked {dockable : Dockable} {event : Event} (orderly : session.Orderly)
    (found : session.dockable? node = some dockable)
    (idle : ∀ root, ¬ session.Pursues node root (.payloadEvent node event)) :
    (session.tracked node dockable event).desktop.moves = session.desktop.moves := by
  change (dockable.carrier.handle _ _ _ event).1.desktop.moves = _
  unfold Carrier.handle
  split
  · next press root motion =>
      have moves := Press.motion_of_track (congrArg Prod.snd motion)
      subst moves
      dsimp only
      split
      · next flying =>
          have coordinator := (orderly.single.inFlight_iff node).mpr
            ⟨_, standing?_of_dockable? found, flying⟩
          rw [Carrier.follow_of_kind]
          exact fun generic => idle root ⟨coordinator, found, generic⟩
      · rfl
  · rfl

theorem moves_perform_of_idle (orderly : session.Orderly)
    (inhouse : ∀ command, operation ≠ .command command)
    (idle : ∀ node root, ¬ session.Pursues node root operation) :
    (session.perform operation).desktop.moves = session.desktop.moves := by
  by_cases apart : ∀ node event, operation ≠ .payloadEvent node event
  · rcases acts_or_launches_perform orderly inhouse apart with acts | ⟨node, root, _, launches⟩
    · exact (still_acts acts).moves_eq
    · exact launches.still.moves_eq
  · push Not at apart
    obtain ⟨node, event, rfl⟩ := apart
    have fed := session.fed_payloadEvent node event
    change (session.payloadEvent node event).1.desktop.moves = _
    generalize (session.payloadEvent node event).1 = after at fed ⊢
    cases fed with
    | unknown missing => rfl
    | missed found misses => rfl
    | interrupted found apart acts => exact (still_acts acts).moves_eq
    | responded found hits acts =>
        exact (still_acts acts).moves_eq.trans (moves_tracked orderly found (idle node))
    | tornOut found undocked moves pressed armed launches =>
        exact launches.still.moves_eq.trans (moves_tracked orderly found (idle node))

theorem payloadEvent_pointerMove_of_flying (found : session.dockable? node = some earlier)
    (flying : earlier.isInFlight = true) :
    (session.payloadEvent node (.pointerMove root)).1 =
      session.tracked node earlier (.pointerMove root) := by
  have uninterrupted : session.interruption? node earlier (.pointerMove root) = none := rfl
  have motion : (Press.track earlier.press earlier.isInFlight (.pointerMove root)).2 =
      .motion root := by
    rw [flying]
    cases earlier.press <;> rfl
  simp only [payloadEvent, found, uninterrupted, gesture_eq, motion]
  rw [Dockable.isInFlight] at flying
  cases phase : earlier.phase with
  | dragging => rfl
  | hovering => rfl
  | undocked => simp [phase, Phase.isInFlight] at flying
  | docked => simp [phase, Phase.isInFlight] at flying

theorem Pursues.moves_perform (pursues : session.Pursues node root operation)
    (orderly : session.Orderly) (geared : session.Geared) :
    ∃ dockable window grab, session.dockable? node = some dockable ∧
      dockable.isInFlight = true ∧ dockable.window = some window ∧
      dockable.carrier.means = .generic grab ∧
      (session.perform operation).desktop.moves =
        session.desktop.moves ++ [(window, root - grab)] := by
  obtain @⟨dockable, flying, found, generic⟩ := pursues
  obtain ⟨same, foundSame, inFlight⟩ := orderly.dockable?_of_inFlight flying
  cases found.symm.trans foundSame
  obtain ⟨grab, means⟩ := Carrier.means_of_kind generic
  have owns : dockable.carrier.window ≠ none := fun none =>
    nomatch generic.symm.trans (((geared node dockable found).flying inFlight).mp none)
  obtain ⟨window, owns⟩ := Option.ne_none_iff_exists'.mp owns
  refine ⟨dockable, window, grab, found, inFlight, owns, means, ?_⟩
  change (session.payloadEvent node (.pointerMove root)).1.desktop.moves = _
  rw [payloadEvent_pointerMove_of_flying found inFlight]
  change (dockable.carrier.handle session.toScene _ dockable.isInFlight _).1.desktop.moves = _
  rw [inFlight, Carrier.fst_handle_pointerMove]
  exact Carrier.moves_follow session.toScene root means owns

/-- A flight that the operation begins and that lasts through all that came later. -/
structure Voyage (session : Session) (node : NodeId) (lift : Operation) (late : List Operation) :
    Prop where
  lifts : ∃ earlier later, session.LiftsOff node lift earlier later
  lasts : ∀ first, first <+: late → ((session.perform lift).run first).inFlight = some node

theorem liftsOff_of_inFlight (orderly : session.Orderly) (before : session.inFlight ≠ some node)
    (after : (session.perform operation).inFlight = some node) :
    ∃ earlier later, session.LiftsOff node operation earlier later := by
  obtain ⟨later, found, flying⟩ := (orderly.perform operation).dockable?_of_inFlight after
  obtain ⟨earlier, known, ⟨flew, _⟩ | lifted⟩ := (career_perform orderly found).flew_or_lifted flying
  · exact absurd ((orderly.single.inFlight_iff node).mpr ⟨_, standing?_of_dockable? known, flew⟩)
      before
  · exact ⟨earlier, later, known, lifted.resting, found, flying⟩

theorem means_perform (orderly : session.Orderly) (before : session.inFlight = some node)
    (after : (session.perform operation).inFlight = some node)
    (found : (session.perform operation).dockable? node = some later) :
    ∃ earlier, session.dockable? node = some earlier ∧
      later.carrier.means = earlier.carrier.means := by
  obtain ⟨same, foundSame, flying⟩ := (orderly.perform operation).dockable?_of_inFlight after
  cases found.symm.trans foundSame
  obtain ⟨earlier, known, ⟨_, kept⟩ | lifted⟩ := (career_perform orderly found).flew_or_lifted flying
  · exact ⟨earlier, known, kept⟩
  · obtain ⟨flown, foundFlown, flies⟩ := orderly.dockable?_of_inFlight before
    cases known.symm.trans foundFlown
    exact nomatch lifted.resting.symm.trans flies

theorem means_run (orderly : session.Orderly)
    (lasts : ∀ first, first <+: operations → (session.run first).inFlight = some node)
    (found : (session.run operations).dockable? node = some later) :
    ∃ earlier, session.dockable? node = some earlier ∧
      later.carrier.means = earlier.carrier.means := by
  induction operations generalizing session with
  | nil => exact ⟨later, found, rfl⟩
  | cons operation rest induction =>
      have step : (session.perform operation).inFlight = some node :=
        lasts [operation] (List.prefix_append [operation] rest)
      obtain ⟨between, foundBetween, same⟩ := induction (orderly.perform operation)
        (fun first cut => lasts (operation :: first) (List.cons_prefix_cons.mpr ⟨rfl, cut⟩)) found
      obtain ⟨earlier, known, before⟩ := means_perform orderly (lasts [] List.nil_prefix) step
        foundBetween
      exact ⟨earlier, known, same.trans before⟩

theorem Voyage.holds {lift : Operation} (voyage : session.Voyage node lift late)
    (orderly : session.Orderly) :
    ∃ root rect, session.Lift node root lift ∧ session.screenRect? node = some rect ∧
      ∀ first dockable grab, first <+: late →
        ((session.perform lift).run first).dockable? node = some dockable →
        dockable.carrier.means = .generic grab → grab = root - rect.position := by
  obtain ⟨earlier, lifted, liftsOff⟩ := voyage.lifts
  obtain ⟨root, rect, lift, shown, held⟩ := (liftsOff.lifted orderly).lift
  refine ⟨root, rect, lift, shown, ?_⟩
  intro first dockable grab cut found means
  obtain ⟨same, foundSame, kept⟩ := means_run (orderly.perform _)
    (fun other shorter => voyage.lasts other (shorter.trans cut)) found
  cases liftsOff.found.symm.trans foundSame
  exact held grab (kept.symm.trans means)

theorem voyage_run (desktop : Desktop) (settings : Settings) (operations : List Operation)
    (flying : ((start desktop settings).run operations).inFlight = some node) :
    ∃ early lift late, operations = early ++ lift :: late ∧
      ((start desktop settings).run early).Voyage node lift late := by
  induction operations using List.reverseRecOn with
  | nil => cases flying
  | append_singleton operations operation induction =>
      have orderly := orderly_run desktop settings operations
      rw [run_append] at flying
      by_cases before : ((start desktop settings).run operations).inFlight = some node
      · obtain ⟨early, lift, late, rfl, voyage⟩ := induction before
        refine ⟨early, lift, late ++ [operation], by simp, voyage.lifts, ?_⟩
        intro first cut
        rcases List.prefix_concat_iff.mp cut with rfl | cut
        · rw [run_append]
          rw [run_append] at flying
          exact flying
        · exact voyage.lasts first cut
      · refine ⟨operations, operation, [], rfl, liftsOff_of_inFlight orderly before flying, ?_⟩
        intro first cut
        cases List.prefix_nil.mp cut
        exact flying

/-- Windows are moved after the pointer and in no other way. What keeps a window and the pointer
apart is settled at the beginning of the flight. -/
structure MovesAfterPointer (initial : Session) : Prop where
  still : ∀ operations operation, (∀ command, operation ≠ .command command) →
    (∀ node root, ¬ (initial.run operations).Pursues node root operation) →
    ((initial.run operations).perform operation).desktop.moves =
      (initial.run operations).desktop.moves
  begins : ∀ operations operation node root,
    (initial.run operations).Pursues node root operation →
    ∃ early lift late, operations = early ++ lift :: late ∧
      (initial.run early).Voyage node lift late
  follows : ∀ early node lift late, (initial.run early).Voyage node lift late →
    ∃ root rect, (initial.run early).Lift node root lift ∧
      (initial.run early).screenRect? node = some rect ∧
      ∀ first operation moved, first <+: late →
        (initial.run (early ++ lift :: first)).Pursues node moved operation →
        ∃ dockable window,
          (initial.run (early ++ lift :: first)).dockable? node = some dockable ∧
          dockable.isInFlight = true ∧ dockable.window = some window ∧
          ((initial.run (early ++ lift :: first)).perform operation).desktop.moves =
            (initial.run (early ++ lift :: first)).desktop.moves ++
              [(window, moved - (root - rect.position))]

theorem movesAfterPointer_start (desktop : Desktop) (settings : Settings) :
    (start desktop settings).MovesAfterPointer where
  still operations operation inhouse idle :=
    moves_perform_of_idle (orderly_run desktop settings operations) inhouse idle
  begins operations operation node root pursues := by
    obtain ⟨flying, _, _⟩ := pursues
    exact voyage_run desktop settings operations flying
  follows early node lift late voyage := by
    obtain ⟨root, rect, lifts, shown, holds⟩ := voyage.holds (orderly_run desktop settings early)
    refine ⟨root, rect, lifts, shown, ?_⟩
    intro first operation moved cut pursues
    obtain ⟨dockable, window, grab, found, inFlight, owns, means, moves⟩ := pursues.moves_perform
      (orderly_run desktop settings _) (geared_run desktop settings _)
    refine ⟨dockable, window, found, inFlight, owns, ?_⟩
    rw [run_append] at found
    rw [moves, holds first dockable grab cut found means]

end Session
end Docking

import Docking.Proofs.Flight.Insertion

namespace Docking

/-! The ways from one phase to another. Whatever an operation does on its way, it takes one
dockable along at most one of them. -/

open Flight (Turn)

namespace Flight

variable {flight : Flight} {turn : Turn} {node : NodeId}

/-- The ways along which a turn and the destructions after it take a dockable. -/
inductive Passes (flight : Flight) : Phase → Phase → Prop
  | stay (phase : Phase) : Passes flight phase phase
  | takeOff {phase : Phase} (grounded : flight.inFlight = none)
      (resting : phase.isInFlight = false) : Passes flight phase .dragging
  | aim {before after : Phase} (flying : before.isInFlight = true)
      (still : after.isInFlight = true) : Passes flight before after
  | settle {phase : Phase} (flying : phase.isInFlight = true) : Passes flight phase .undocked
  | land : Passes flight .hovering .docked

theorem Passes.forget {before after : Phase} (passes : Passes flight before after)
    {standing : Standing} (stands : standing.phase = after) (gone : List NodeId) :
    Passes flight before (standing.forget gone).phase := by
  simp only [Standing.forget]
  split
  · next lost =>
      simp only [Bool.and_eq_true, decide_eq_true_eq] at lost
      rw [lost.2] at stands
      subst stands
      cases passes with
      | stay => exact .aim rfl rfl
      | aim flying => exact .aim flying rfl
  · rw [stands]
    exact passes

namespace Single

variable (single : flight.Single) {standing : Standing}
  (known : flight.standing? node = some standing)
include single known

theorem phase_of_activeTarget? {target : NodeId}
    (aiming : flight.activeTarget? node = some target) : standing.phase = .hovering := by
  rw [activeTarget?, known, Option.bind_some] at aiming
  apply (single.sound node standing known).hovering_iff.mpr
  rw [aiming, Option.isSome_some]

theorem isInFlight_of_inFlight (flying : flight.inFlight = some node) :
    standing.isInFlight = true := by
  obtain ⟨same, found, inFlight⟩ := (single.inFlight_iff node).mp flying
  cases known.symm.trans found
  exact inFlight

theorem grounded_of_alone (resting : standing.isInFlight = false)
    (alone : ∀ other, flight.inFlight = some other → other = node) : flight.inFlight = none := by
  cases flying : flight.inFlight with
  | none => rfl
  | some other =>
      cases alone other flying
      exact absurd flying (single.inFlight_ne known resting)

theorem passes_make (admitted : flight.Admits turn) (safe : turn.strands = false)
    {made : Standing} (found : (flight.make turn).standing? node = some made) :
    Passes flight standing.phase made.phase := by
  have kept {earlier : Flight} (same : earlier.standing? = flight.standing?)
      (found : earlier.standing? node = some made) :
      Passes flight standing.phase made.phase := by
    rw [same, known] at found
    cases found
    exact .stay _
  have adjusted {earlier : Flight} {other : NodeId} {change : Standing → Standing}
      (same : earlier.standing? = flight.standing?)
      (found : (earlier.adjust other change).standing? node = some made)
      (passes : node = other → Passes flight standing.phase (change standing).phase) :
      Passes flight standing.phase made.phase := by
    simp only [Flight.adjust, same] at found
    split at found
    · next here =>
        rw [← here, known] at found
        cases found
        exact passes here
    · exact kept rfl found
  have launched {other : NodeId} (origin : Option NodeId)
      (admitted : flight.Admits (.launch other origin)) (here : node = other) :
      Passes flight standing.phase .dragging := by
    subst here
    obtain ⟨⟨same, refound, resting⟩, alone⟩ := admitted
    cases known.symm.trans refound
    exact .takeOff (single.grounded_of_alone known resting alone) resting
  cases turn with
  | stay => exact kept rfl found
  | takeNotices => exact kept rfl found
  | register other phase =>
      simp only [Flight.make] at found
      split at found
      · next here =>
          subst here
          cases admitted.1.symm.trans known
      · exact kept rfl found
  | launch other origin => exact adjusted rfl found (launched origin admitted)
  | pull other container => exact adjusted rfl found (launched (some container) admitted)
  | ground other => cases safe
  | hover other target =>
      refine adjusted (flight.standing?_bidFarewell other) found fun here => ?_
      subst here
      exact .aim (single.isInFlight_of_inFlight known admitted.1) rfl
  | leave target =>
      simp only [Flight.make] at found
      split at found
      · exact kept rfl found
      · next other flying =>
          split at found
          · refine adjusted rfl found fun here => ?_
            subst here
            exact .aim (single.isInFlight_of_inFlight known flying) rfl
          · exact kept rfl found
  | passRelease target root => exact kept rfl found
  | settle other =>
      refine adjusted (flight.standing?_bidFarewell other) found fun here => ?_
      subst here
      obtain ⟨same, refound, flying⟩ := admitted
      cases known.symm.trans refound
      exact .settle flying
  | turnAway other target =>
      refine adjusted rfl found fun here => ?_
      subst here
      exact .settle (single.isInFlight_of_inFlight known admitted.1)
  | land other target =>
      refine adjusted rfl found fun here => ?_
      subst here
      rw [single.phase_of_activeTarget? known admitted.2]
      exact .land

end Single
end Flight

namespace Session

theorem Follows.passes {before : Flight} {turn : Turn} {after : Session}
    (follows : Follows before turn after) (single : before.Single) (safe : turn.strands = false)
    {node : NodeId} {standing : Standing} (known : before.standing? node = some standing)
    {landed : Dockable} (found : after.dockable? node = some landed) :
    before.Passes standing.phase landed.phase := by
  obtain ⟨gone, _, flight_eq⟩ := follows.flight_eq
  have stands := standing?_of_dockable? found
  rw [flight_eq, Flight.standing?_forget] at stands
  split at stands
  · cases stands
  · obtain ⟨made, found, forgotten⟩ := Option.map_eq_some_iff.mp stands
    have passes := single.passes_make known follows.admitted safe found
    have phase_eq : (made.forget gone).phase = landed.phase := congrArg Standing.phase forgotten
    rw [← phase_eq]
    exact passes.forget rfl gone

variable {session : Session}

/-- The ways along which an operation may take a dockable from one phase to another. -/
inductive Passage (session : Session) (operation : Operation) (node : NodeId) :
    Phase → Phase → Prop
  | takeOff (grounded : session.inFlight = none) :
      Passage session operation node .undocked .dragging
  | pullOut (grounded : session.inFlight = none) :
      Passage session operation node .docked .dragging
  | hover : Passage session operation node .dragging .hovering
  | leave : Passage session operation node .hovering .dragging
  | land {target : NodeId} {event : Event} {hooks : Hooks}
      (handled : operation = .targetEvent target event hooks)
      (hovers : session.HoversOver node target) :
      Passage session operation node .hovering .docked
  | settle : Passage session operation node .dragging .undocked
  | turnAway : Passage session operation node .hovering .undocked
  | strand {root : Point} {error : DockError} (torn : operation = .tearOut node root)
      (failed : (session.tearOut node root).2 = .error error)
      (rootless : session.tree.parent? node = none) (grounded : session.inFlight = none) :
      Passage session operation node .docked .undocked

theorem follows_perform (orderly : session.Orderly) (operation : Operation) :
    (∃ turn, turn.strands = false ∧ Follows session.flight turn (session.perform operation)) ∨
      ∃ node root, operation = .tearOut node root ∧ session.Strands node root := by
  have quietly (quiet : operation.isQuiet = true)
      (aloft : ∀ node root, operation ≠ .tearOut node root) :
      ∃ turn, turn.strands = false ∧ Follows session.flight turn (session.perform operation) := by
    obtain ⟨turn, _, follows⟩ := session.followsSafely_perform orderly.wellFormed quiet aloft
    exact ⟨turn, follows⟩
  cases operation with
  | create plan =>
      left
      rcases session.follows_create orderly.fresh plan with same | ⟨_, phase, follows⟩
      · exact ⟨.stay, rfl, .of_flight trivial (congrArg flight same)⟩
      · exact ⟨_, rfl, follows⟩
  | tearOut node root =>
      rcases session.tearOut_cases node root with ⟨turn, _, follows⟩ | strands
      · exact .inl ⟨turn, follows⟩
      · exact .inr ⟨node, root, rfl, strands⟩
  | targetEvent target event hooks =>
      obtain ⟨turn, makes⟩ := makes_targetEvent orderly.wellFormed target hooks event
      exact .inl ⟨turn, makes.safe, makes.follows⟩
  | takeNotices => exact .inl ⟨.takeNotices, rfl, .of_flight trivial rfl⟩
  | _ => exact .inl (quietly rfl nofun)

section Orderly

variable (orderly : session.Orderly) {operation : Operation} {node : NodeId}
  {before after : Dockable}
include orderly

theorem grounded_of_strands {root : Point} (strands : session.Strands node root) :
    session.inFlight = none := by
  obtain ⟨dockable, found, resting⟩ := strands.resting
  exact orderly.single.grounded_of_alone (standing?_of_dockable? found) resting strands.alone

theorem passage_of_strands {other : NodeId} {root : Point} (strands : session.Strands other root)
    (known : session.dockable? node = some before)
    (found : (session.perform (.tearOut other root)).dockable? node = some after) :
    before.phase = after.phase ∨
      session.Passage (.tearOut other root) node before.phase after.phase := by
  have stands : (session.flight.make (.ground other)).standing? node = some after.standing := by
    rw [← strands.flight_eq]
    exact standing?_of_dockable? found
  have stood := standing?_of_dockable? known
  simp only [Flight.make, Flight.adjust] at stands
  split at stands
  · next here =>
      subst here
      rw [stood, Option.map_some] at stands
      have undocked : .undocked = after.phase := congrArg Standing.phase (Option.some.inj stands)
      obtain ⟨dockable, foundSame, resting⟩ := strands.resting
      cases known.symm.trans foundSame
      rw [← undocked]
      cases phase : before.phase with
      | undocked => exact .inl rfl
      | docked =>
          obtain ⟨error, failed⟩ := strands.failed
          refine .inr (.strand rfl failed ?_ (grounded_of_strands orderly strands))
          cases linked : session.tree.parent? node with
          | none => rfl
          | some parent =>
              obtain ⟨index, slotted⟩ := orderly.wellFormed.detach_snd_of_parent? linked
              cases slotted.symm.trans strands.rootless
      | dragging => cases resting.symm.trans (congrArg Phase.isInFlight phase)
      | hovering => cases resting.symm.trans (congrArg Phase.isInFlight phase)
  · rw [stood] at stands
    exact .inl (congrArg Standing.phase (Option.some.inj stands))

theorem passage_perform (known : session.dockable? node = some before)
    (found : (session.perform operation).dockable? node = some after) :
    before.phase = after.phase ∨ session.Passage operation node before.phase after.phase := by
  rcases follows_perform orderly operation with ⟨turn, safe, follows⟩ | ⟨other, root, rfl, strands⟩
  · have passes := follows.passes orderly.single safe (standing?_of_dockable? known) found
    have lands (hovering : before.phase = .hovering) (docked : after.phase = .docked) :
        session.Passage operation node .hovering .docked := by
      have apart : before.phase ≠ .docked := by
        rw [hovering]
        exact nofun
      obtain ⟨target, event, hooks, handled, hovers, _⟩ :=
        inserted_of_docked orderly known apart found docked
      exact .land handled hovers
    have same : before.standing.phase = before.phase := rfl
    rw [same] at passes
    generalize before.phase = earlier at passes lands ⊢
    generalize after.phase = later at passes lands ⊢
    cases passes with
    | stay => exact .inl rfl
    | takeOff grounded resting =>
        cases earlier with
        | undocked => exact .inr (.takeOff grounded)
        | docked => exact .inr (.pullOut grounded)
        | _ => cases resting
    | aim flying still =>
        cases earlier with
        | dragging =>
            cases later with
            | dragging => exact .inl rfl
            | hovering => exact .inr .hover
            | _ => cases still
        | hovering =>
            cases later with
            | dragging => exact .inr .leave
            | hovering => exact .inl rfl
            | _ => cases still
        | _ => cases flying
    | settle flying =>
        cases earlier with
        | dragging => exact .inr .settle
        | hovering => exact .inr .turnAway
        | _ => cases flying
    | land => exact .inr (lands rfl rfl)
  · exact passage_of_strands orderly strands known found

end Orderly

/-- A dockable stays registered, and its phase is another one after the operation. -/
def Moves (session : Session) (operation : Operation) (node : NodeId) : Prop :=
  ∃ before after, session.dockable? node = some before ∧
    (session.perform operation).dockable? node = some after ∧ before.phase ≠ after.phase

theorem inFlight_of_moves (orderly : session.Orderly) {operation : Operation} {node : NodeId}
    (moves : session.Moves operation node) :
    session.inFlight = some node ∨ session.inFlight = none ∧
      ((session.perform operation).inFlight = some node ∨
        (session.perform operation).inFlight = none ∧ ∃ root, operation = .tearOut node root) := by
  obtain ⟨before, after, known, found, apart⟩ := moves
  have passage := (passage_perform orderly known found).resolve_left apart
  have flew (flying : before.phase.isInFlight = true) : session.inFlight = some node :=
    (orderly.single.inFlight_iff node).mpr ⟨_, standing?_of_dockable? known, flying⟩
  have flies (flying : after.phase.isInFlight = true) :
      (session.perform operation).inFlight = some node :=
    ((orderly.perform operation).single.inFlight_iff node).mpr
      ⟨_, standing?_of_dockable? found, flying⟩
  generalize before.phase = earlier at passage flew
  generalize after.phase = later at passage flies
  cases passage with
  | takeOff grounded => exact .inr ⟨grounded, .inl (flies rfl)⟩
  | pullOut grounded => exact .inr ⟨grounded, .inl (flies rfl)⟩
  | @strand root error torn failed rootless grounded =>
      refine .inr ⟨grounded, .inr ⟨?_, root, torn⟩⟩
      subst torn
      cases flying : (session.perform (.tearOut node root)).inFlight with
      | none => rfl
      | some other =>
          have takesOff := (takesOff_tearOut_iff orderly node root).mp ⟨grounded, flying ▸ rfl⟩
          exact nomatch takesOff.2.symm.trans failed
  | hover => exact .inl (flew rfl)
  | leave => exact .inl (flew rfl)
  | land => exact .inl (flew rfl)
  | settle => exact .inl (flew rfl)
  | turnAway => exact .inl (flew rfl)

theorem eq_of_moves (orderly : session.Orderly) {operation : Operation} {first second : NodeId}
    (moves : session.Moves operation first) (alsoMoves : session.Moves operation second) :
    first = second := by
  rcases inFlight_of_moves orderly moves with flew | ⟨grounded, lift⟩
  · rcases inFlight_of_moves orderly alsoMoves with alsoFlew | ⟨grounded, _⟩
    · exact Option.some.inj (flew.symm.trans alsoFlew)
    · exact nomatch flew.symm.trans grounded
  · rcases inFlight_of_moves orderly alsoMoves with alsoFlew | ⟨_, alsoLift⟩
    · exact nomatch grounded.symm.trans alsoFlew
    · rcases lift with flies | ⟨stays, root, torn⟩
      · rcases alsoLift with alsoFlies | ⟨stays, _⟩
        · exact Option.some.inj (flies.symm.trans alsoFlies)
        · exact nomatch flies.symm.trans stays
      · rcases alsoLift with alsoFlies | ⟨_, other, alsoTorn⟩
        · exact nomatch stays.symm.trans alsoFlies
        · cases torn.symm.trans alsoTorn
          rfl

/-- An operation keeps to the ways there are, and takes one dockable along at most. -/
structure KeepsToPassages (session : Session) (operation : Operation) : Prop where
  passage : ∀ node before after, session.dockable? node = some before →
    (session.perform operation).dockable? node = some after →
    before.phase = after.phase ∨ session.Passage operation node before.phase after.phase
  alone : ∀ first second, session.Moves operation first → session.Moves operation second →
    first = second

theorem keepsToPassages_run (desktop : Desktop) (settings : Settings)
    (operations : List Operation) (operation : Operation) :
    ((start desktop settings).run operations).KeepsToPassages operation := by
  have orderly := orderly_run desktop settings operations
  constructor
  · intro node before after known found
    exact passage_perform orderly known found
  · intro first second moves alsoMoves
    exact eq_of_moves orderly moves alsoMoves

/-- A docked dockable whose container let go of it is stranded when no window can be opened. -/
example :
    (((start .repositioning .standard).run
      [.command (.setFaults (.onCreate "none left")), .edit (.add (.newPanel "stage") .zero),
        .create { DockablePlan.new "tool" with container := some (⟨0⟩, none) },
        .edit (.detach ⟨1⟩), .tearOut ⟨1⟩ .zero]).dockable? ⟨1⟩).map Dockable.phase =
      some .undocked :=
  rfl

end Session
end Docking

import Docking.Proofs.Flight.Landing

namespace Docking

/-! A dockable is inserted only by the release that ends its flight. So however often and in
whatever order a release reaches the targets, no two insertions follow each other without a
take-off between them. -/

open Flight (Turn)

def HookCall.insertion? : HookCall → Option (NodeId × NodeId)
  | .insert target node => some (target, node)
  | _ => none

namespace Flight

variable {flight : Flight} {node : NodeId} {standing landed : Standing}

theorem docked_of_forget {gone : List NodeId}
    (found : (flight.forget gone).standing? node = some landed)
    (docked : landed.phase = .docked) :
    ∃ standing, flight.standing? node = some standing ∧ standing.phase = .docked := by
  rw [standing?_forget] at found
  split at found
  · cases found
  · obtain ⟨standing, known, rfl⟩ := Option.map_eq_some_iff.mp found
    refine ⟨standing, known, ?_⟩
    unfold Standing.forget at docked
    dsimp only at docked
    split at docked
    · cases docked
    · exact docked

theorem docked_of_make {turn : Turn} (admitted : flight.Admits turn)
    (known : flight.standing? node = some standing)
    (found : (flight.make turn).standing? node = some landed)
    (docked : landed.phase = .docked) :
    standing.phase = .docked ∨ ∃ target, turn = .land node target := by
  have kept {earlier : Flight} (same : earlier.standing? = flight.standing?)
      (found : earlier.standing? node = some landed) : standing.phase = .docked := by
    rw [same, known] at found
    cases found
    exact docked
  have adjusted {earlier : Flight} {other : NodeId} {change : Standing → Standing}
      (found : (earlier.adjust other change).standing? node = some landed) (phase : Phase)
      (same : earlier.standing? = flight.standing?)
      (enters : ∀ standing, (change standing).phase = phase) (apart : phase ≠ .docked) :
      standing.phase = .docked := by
    dsimp only [adjust] at found
    split at found
    · obtain ⟨before, _, rfl⟩ := Option.map_eq_some_iff.mp found
      exact absurd ((enters before).symm.trans docked) apart
    · exact kept same found
  cases turn with
  | stay => exact .inl (kept rfl found)
  | takeNotices => exact .inl (kept rfl found)
  | register other phase =>
      dsimp only [make] at found
      split at found
      · next same =>
          subst same
          rw [admitted.1] at known
          cases known
      · exact .inl (kept rfl found)
  | launch other origin => exact .inl (adjusted found .dragging rfl (fun _ => rfl) (by decide))
  | pull other container => exact .inl (adjusted found .dragging rfl (fun _ => rfl) (by decide))
  | ground other => exact .inl (adjusted found .undocked rfl (fun _ => rfl) (by decide))
  | hover other target =>
      have same := flight.standing?_bidFarewell other
      exact .inl (adjusted found .hovering same (fun _ => rfl) (by decide))
  | leave target =>
      refine .inl ?_
      dsimp only [make] at found
      split at found
      · exact kept rfl found
      · split at found
        · exact adjusted found .dragging rfl (fun _ => rfl) (by decide)
        · exact kept rfl found
  | passRelease target root => exact .inl (kept rfl found)
  | settle other =>
      have same := flight.standing?_bidFarewell other
      exact .inl (adjusted found .undocked same (fun _ => rfl) (by decide))
  | turnAway other target => exact .inl (adjusted found .undocked rfl (fun _ => rfl) (by decide))
  | land other target =>
      by_cases same : node = other
      · exact .inr ⟨target, by rw [same]⟩
      · have elsewhere : (flight.make (.land other target)).standing? node =
            flight.standing? node := if_neg same
        rw [elsewhere, known] at found
        cases found
        exact .inl docked

end Flight

namespace Session

theorem Follows.docked {before : Flight} {turn : Turn} {after : Session}
    (follows : Follows before turn after) {node : NodeId} {standing landed : Standing}
    (known : before.standing? node = some standing) (apart : standing.phase ≠ .docked)
    (found : after.flight.standing? node = some landed) (docked : landed.phase = .docked) :
    ∃ target, turn = .land node target := by
  obtain ⟨gone, _, flight_eq⟩ := follows.flight_eq
  rw [flight_eq] at found
  obtain ⟨earlier, made, dockedEarlier⟩ := Flight.docked_of_forget found docked
  exact (Flight.docked_of_make follows.admitted known made dockedEarlier).resolve_left apart

/-- The insertions in the course of one operation, each with its target and dockable. -/
def insertions (session : Session) : Operation → List (NodeId × NodeId)
  | .targetEvent target event hooks =>
      (session.targetEvent target event hooks).consulted.filterMap HookCall.insertion?
  | _ => []

section Silence

variable (session : Session) (target dragged : NodeId) (root : Point) (hooks : Hooks)

theorem insertion?_runAccept (tree : Tree) :
    (hooks.runAccept tree target dragged).2.filterMap HookCall.insertion? = [] := by
  unfold Hooks.runAccept
  split <;> rfl

theorem insertion?_giveFeedback (shown : Bool) :
    (session.giveFeedback hooks target shown).2.filterMap HookCall.insertion? = [] := by
  unfold giveFeedback Hooks.runFeedback
  dsimp only
  split
  · split <;> rfl
  · rfl

theorem insertion?_targetLeave :
    (session.targetLeave target hooks).consulted.filterMap HookCall.insertion? = [] :=
  session.insertion?_giveFeedback target hooks false

theorem insertion?_isCandidate :
    (session.isCandidate target dragged root hooks).2.filterMap HookCall.insertion? = [] := by
  have accepted := insertion?_runAccept target dragged hooks session.tree
  unfold isCandidate
  split
  · rfl
  · dsimp only
    split
    · rw [List.filterMap_append, accepted]
      rfl
    · exact accepted

theorem insertion?_targetMotion :
    (session.targetMotion target dragged root hooks).consulted.filterMap
      HookCall.insertion? = [] := by
  have asked := session.insertion?_isCandidate target dragged root hooks
  have told (earlier : Session) (shown : Bool) :
      ((session.isCandidate target dragged root hooks).2 ++
        (earlier.giveFeedback hooks target shown).2).filterMap HookCall.insertion? = [] := by
    rw [List.filterMap_append, asked, insertion?_giveFeedback]
    rfl
  have moved := session.moved_targetMotion dragged target hooks root
  generalize session.targetMotion target dragged root hooks = reaction at moved ⊢
  cases moved with
  | unknown missing => exact asked
  | refused found outside elsewhere => exact asked
  | left found outside aims => exact told session false
  | kept found inside keeps => exact asked
  | taken found inside takes => exact told _ true

theorem insertion?_tearOutChild :
    (session.tearOutChild target root hooks).consulted.filterMap HookCall.insertion? = [] := by
  unfold tearOutChild
  split
  · rfl
  · split
    · rfl
    · dsimp only
      split <;> rfl

/-- The release over the active target inserts when the filter agrees, and only then. -/
theorem insertion?_dock :
    (session.dock target dragged root hooks).consulted.filterMap HookCall.insertion? =
      if (hooks.runAccept session.tree target dragged).1 then [(target, dragged)] else [] := by
  have asked := insertion?_runAccept target dragged hooks session.tree
  have told (earlier : Session) (shown : Bool) :=
    earlier.insertion?_giveFeedback target hooks shown
  have away (earlier : Session) :
      (earlier.turnAway target dragged root hooks).2.filterMap HookCall.insertion? = [] :=
    told earlier false
  unfold dock
  dsimp only
  split
  · split
    · rw [List.filterMap_append, List.filterMap_append, asked, away]
      rfl
    · rw [List.filterMap_append, List.filterMap_append, asked, told]
      rfl
  · rw [List.filterMap_append, asked, away]
    rfl

end Silence

/-- An insertion ends the flight of the dockable that hovered over the target. -/
theorem insertions_targetEvent {session : Session} (orderly : session.Orderly)
    (target : NodeId) (event : Event) (hooks : Hooks) :
    session.insertions (.targetEvent target event hooks) = [] ∨
      ∃ node, session.insertions (.targetEvent target event hooks) = [(target, node)] ∧
        session.HoversOver node target ∧
        (session.perform (.targetEvent target event hooks)).inFlight = none := by
  refine targetEvent_cases
    (motive := fun reaction => reaction.consulted.filterMap HookCall.insertion? = [] ∨
      ∃ node, reaction.consulted.filterMap HookCall.insertion? = [(target, node)] ∧
        session.HoversOver node target ∧ reaction.session.inFlight = none)
    ?_ ?_ ?_ ?_ ?_ event
  · exact fun _ => .inl rfl
  · exact .inl (session.insertion?_targetLeave target hooks)
  · exact fun _ root => .inl (session.insertion?_tearOutChild target root hooks)
  · exact fun dragged root _ => .inl (session.insertion?_targetMotion target dragged root hooks)
  · intro dragged root flying active
    have aiming := (session.activeTarget?_flight dragged).trans active
    have inserted := session.insertion?_dock target dragged root hooks
    split at inserted
    · refine .inr ⟨dragged, inserted, orderly.hoversOver_iff.mpr ⟨flying, ?_⟩, ?_⟩
      · exact (aimed?_of_inFlight flying).trans active
      · exact inFlight_dock orderly.wellFormed flying aiming root
    · exact .inl inserted

theorem insertions_cases {session : Session} (orderly : session.Orderly)
    (operation : Operation) :
    session.insertions operation = [] ∨
      ∃ node target, session.insertions operation = [(target, node)] ∧
        session.HoversOver node target ∧ (session.perform operation).inFlight = none := by
  cases operation with
  | targetEvent target event hooks =>
      rcases insertions_targetEvent orderly target event hooks with nothing | ⟨node, once⟩
      · exact .inl nothing
      · exact .inr ⟨node, target, once⟩
  | _ => exact .inl rfl

def TakesOff (session : Session) (operation : Operation) : Prop :=
  session.inFlight = none ∧ (session.perform operation).inFlight.isSome = true

theorem takesOff_tearOut_iff {session : Session} (orderly : session.Orderly) (node : NodeId)
    (root : Point) :
    session.TakesOff (.tearOut node root) ↔
      session.inFlight = none ∧ (session.tearOut node root).2 = .ok () := by
  refine and_congr_right fun grounded => ?_
  change (session.tearOut node root).1.inFlight.isSome = true ↔ _
  rcases session.staysPut_or_begins node root with ⟨result, stays⟩ | ⟨dockable, asked, begins⟩
  · rw [stays.unchanged, grounded]
    refine iff_of_false Bool.false_ne_true fun calm => ?_
    obtain ⟨dockable, found, flies⟩ := stays.flying calm
    have flying := (orderly.single.inFlight_iff node).mpr
      ⟨_, standing?_of_dockable? found, flies⟩
    exact nomatch grounded.symm.trans flying
  · have begun := session.flight_beginDrag node asked
    rw [← begins.begun] at begun
    generalize session.tearOut node root = outcome at begun
    obtain ⟨after, result⟩ := outcome
    cases result with
    | ok =>
        have launched : after.inFlight = some node := congrArg Flight.inFlight begun.2.2
        rw [launched]
        exact iff_of_true rfl rfl
    | error error =>
        have still : after.inFlight = none := by
          rcases begun with kept | ⟨_, kept⟩
          · exact (congrArg Flight.inFlight kept).trans grounded
          · exact (congrArg Flight.inFlight kept).trans grounded
        rw [still]
        exact iff_of_false Bool.false_ne_true nofun

def NoTakeOff : Session → List Operation → Prop
  | _, [] => True
  | session, operation :: rest =>
      ¬ session.TakesOff operation ∧ (session.perform operation).NoTakeOff rest

def insertionsOf : Session → List Operation → List (NodeId × NodeId)
  | _, [] => []
  | session, operation :: rest =>
      session.insertions operation ++ (session.perform operation).insertionsOf rest

theorem insertionsOf_of_grounded {session : Session} (orderly : session.Orderly)
    (grounded : session.inFlight = none) {operations : List Operation}
    (noTakeOff : session.NoTakeOff operations) : session.insertionsOf operations = [] := by
  induction operations generalizing session with
  | nil => rfl
  | cons operation rest induction =>
      have nothing : session.insertions operation = [] := by
        rcases insertions_cases orderly operation with nothing | ⟨node, target, _, hovers, _⟩
        · exact nothing
        · exact nomatch grounded.symm.trans hovers.1
      have still : (session.perform operation).inFlight = none := by
        cases airborne : (session.perform operation).inFlight with
        | none => rfl
        | some node => exact absurd ⟨grounded, airborne ▸ rfl⟩ noTakeOff.1
      rw [insertionsOf, nothing, induction (orderly.perform operation) still noTakeOff.2]
      rfl

theorem length_insertionsOf_le_one {session : Session} (orderly : session.Orderly)
    {first : Operation} {rest : List Operation}
    (noTakeOff : (session.perform first).NoTakeOff rest) :
    (session.insertionsOf (first :: rest)).length ≤ 1 := by
  induction rest generalizing session first with
  | nil =>
      rcases insertions_cases orderly first with nothing | ⟨node, target, once, _, _⟩
      · simp [insertionsOf, nothing]
      · simp [insertionsOf, once]
  | cons second rest induction =>
      rw [insertionsOf]
      rcases insertions_cases orderly first with nothing | ⟨node, target, once, _, ended⟩
      · rw [nothing, List.nil_append]
        exact induction (orderly.perform first) noTakeOff.2
      · rw [once, insertionsOf_of_grounded (orderly.perform first) ended noTakeOff]
        exact Nat.le_refl 1

/-- A target that makes a dockable land has inserted it. -/
theorem inserted_of_lands {session : Session} (orderly : session.Orderly) {target node : NodeId}
    {event : Event} {hooks : Hooks}
    (lands : ∀ {turn : Turn}, Follows session.flight turn
      (session.targetEvent target event hooks).session → ∃ other, turn = .land node other) :
    session.HoversOver node target ∧
      session.insertions (.targetEvent target event hooks) = [(target, node)] := by
  revert lands
  refine targetEvent_cases
    (motive := fun reaction =>
      (∀ {turn : Turn}, Follows session.flight turn reaction.session →
        ∃ other, turn = .land node other) →
      session.HoversOver node target ∧
        reaction.consulted.filterMap HookCall.insertion? = [(target, node)])
    ?_ ?_ ?_ ?_ ?_ event
  · intro _ lands
    obtain ⟨_, impossible⟩ := lands (.of_flight trivial rfl : Follows _ .stay _)
    cases impossible
  · intro lands
    obtain ⟨_, impossible⟩ := lands
      (.of_flight trivial (flight_targetLeave target hooks session) : Follows _ (.leave target) _)
    cases impossible
  · intro grounded root lands
    obtain ⟨turn, makes⟩ := makes_tearOutChild orderly.wellFormed target hooks root
    obtain ⟨other, rfl⟩ := lands makes.follows
    exact nomatch grounded.symm.trans makes.follows.admitted.1
  · intro dragged root flying lands
    obtain ⟨turn, makes⟩ := makes_targetMotion orderly.wellFormed target hooks flying root
    obtain ⟨other, rfl⟩ := lands makes.follows
    have ended := makes.follows.inFlight_eq_none rfl makes.follows.admitted.1
    rw [inFlight_targetMotion, flying] at ended
    cases ended
  · intro dragged root flying active lands
    have aiming := (session.activeTarget?_flight dragged).trans active
    by_cases takes : session.Takes target dragged hooks
    · obtain ⟨other, same⟩ := lands
        (follows_dock_of_takes orderly.wellFormed flying aiming root takes)
      cases same
      refine ⟨orderly.hoversOver_iff.mpr ⟨flying, (aimed?_of_inFlight flying).trans active⟩, ?_⟩
      rw [insertion?_dock, if_pos takes.accepted]
    · obtain ⟨other, impossible⟩ := lands
        (follows_dock_of_not_takes orderly.wellFormed flying aiming root takes)
      cases impossible

theorem inserted_of_docked {session : Session} (orderly : session.Orderly)
    {operation : Operation} {node : NodeId} {dockable landed : Dockable}
    (known : session.dockable? node = some dockable) (apart : dockable.phase ≠ .docked)
    (found : (session.perform operation).dockable? node = some landed)
    (docked : landed.phase = .docked) :
    ∃ target event hooks, operation = .targetEvent target event hooks ∧
      session.HoversOver node target ∧ session.insertions operation = [(target, node)] := by
  have standing := standing?_of_dockable? known
  have stands := standing?_of_dockable? found
  have lands {turn : Turn} (follows : Follows session.flight turn (session.perform operation)) :
      ∃ target, turn = .land node target := follows.docked standing apart stands docked
  have quietly (quiet : operation.isQuiet = true) : False := by
    obtain ⟨turn, quietTurn, follows⟩ := session.followsQuietly_perform orderly.wellFormed quiet
    obtain ⟨target, rfl⟩ := lands follows
    cases quietTurn
  cases operation with
  | targetEvent target event hooks =>
      exact ⟨target, event, hooks, rfl, inserted_of_lands orderly lands⟩
  | create plan =>
      rcases session.follows_create orderly.fresh plan with same | ⟨_, phase, follows⟩
      · obtain ⟨_, impossible⟩ := lands
          (.of_flight trivial (congrArg flight same) : Follows _ .stay _)
        cases impossible
      · obtain ⟨_, impossible⟩ := lands follows
        cases impossible
  | takeNotices =>
      obtain ⟨_, impossible⟩ := lands (.of_flight trivial rfl : Follows _ .takeNotices _)
      cases impossible
  | _ => exact (quietly rfl).elim

/-- However releases reach the targets, no insertion is made twice. -/
structure InsertsOnce (session : Session) : Prop where
  /-- From one take-off to the next there is one insertion at most. -/
  length_le_one : ∀ first rest, (session.perform first).NoTakeOff rest →
    (session.insertionsOf (first :: rest)).length ≤ 1
  inserted_of_docked : ∀ operation node dockable landed,
    session.dockable? node = some dockable → dockable.phase ≠ .docked →
    (session.perform operation).dockable? node = some landed → landed.phase = .docked →
    ∃ target event hooks, operation = .targetEvent target event hooks ∧
      session.HoversOver node target ∧ session.insertions operation = [(target, node)]
  /-- What is inserted hovered, and its flight is over whether it landed or not. -/
  over_of_inserted : ∀ operation target node, (target, node) ∈ session.insertions operation →
    session.HoversOver node target ∧ session.insertions operation = [(target, node)] ∧
      (session.perform operation).inFlight = none

theorem insertsOnce_run (desktop : Desktop) (settings : Settings)
    (operations : List Operation) :
    ((start desktop settings).run operations).InsertsOnce := by
  have orderly := orderly_run desktop settings operations
  generalize (start desktop settings).run operations = session at orderly
  constructor
  · exact fun first rest noTakeOff => length_insertionsOf_le_one orderly noTakeOff
  · exact fun operation node dockable landed => inserted_of_docked orderly
  · intro operation target node inserted
    rcases insertions_cases orderly operation with nothing | ⟨other, place, once, hovers, ended⟩
    · rw [nothing] at inserted
      cases inserted
    · rw [once] at inserted
      cases List.mem_singleton.mp inserted
      exact ⟨hovers, once, ended⟩

/-- Of two releases over one target only the first inserts. -/
example :
    let hovering := (start (.withCapabilities .none) .standard).run
      [.edit (.add (.newPanel "stage") .zero), .create (.new "tool"), .tearOut ⟨1⟩ .zero,
        .targetEvent ⟨0⟩ (.pointerMove .zero) .welcoming]
    hovering.insertionsOf
      [.targetEvent ⟨0⟩ (.dockRelease .zero) .welcoming,
        .targetEvent ⟨0⟩ (.pointerUp .primary .zero) .welcoming] = [(⟨0⟩, ⟨1⟩)] :=
  rfl

end Session
end Docking

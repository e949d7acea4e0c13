import Docking.Proofs.Flight.Dismissal
import Docking.Proofs.Flight.Passage

namespace Docking

/-! Which targets the dockable in flight may come over. It is neither the dockable itself, nor
one that lies below it, nor the container that the dockable was torn out of, and those are not
even asked. -/

open Flight (Turn)

def HookCall.isHitTest : HookCall → Bool
  | .hitTest .. => true
  | _ => false

namespace Flight

variable {flight : Flight} {turn : Turn} {node : NodeId} {standing made : Standing}

theorem eq_hover_of_make {target : NodeId}
    (found : (flight.make turn).standing? node = some made)
    (aims : made.activeTarget = some target) (anew : flight.activeTarget? node ≠ some target) :
    turn = .hover node target := by
  have kept {earlier : Flight} (same : earlier.standing? = flight.standing?)
      (found : earlier.standing? node = some made) : turn = .hover node target := by
    rw [same] at found
    refine absurd ?_ anew
    rw [activeTarget?, found]
    exact aims
  have adjusted {earlier : Flight} {other : NodeId} {change : Standing → Standing}
      (same : earlier.standing? = flight.standing?)
      (found : (earlier.adjust other change).standing? node = some made)
      (clears : ∀ standing, (change standing).activeTarget = none ∨
        (change standing).activeTarget = standing.activeTarget) : turn = .hover node target := by
    dsimp only [adjust] at found
    split at found
    · next here =>
        obtain ⟨standing, known, rfl⟩ := Option.map_eq_some_iff.mp found
        rcases clears standing with cleared | same
        · cases cleared.symm.trans aims
        · refine absurd ?_ anew
          rw [activeTarget?, here, ← ‹earlier.standing? = flight.standing?›, known]
          exact same.symm.trans aims
    · exact kept same found
  cases turn with
  | stay => exact kept rfl found
  | takeNotices => exact kept rfl found
  | register other phase =>
      dsimp only [make] at found
      split at found
      · cases found
        cases aims
      · exact kept rfl found
  | launch other origin => exact adjusted rfl found fun _ => .inl rfl
  | pull other container => exact adjusted rfl found fun _ => .inl rfl
  | ground other => exact adjusted rfl found fun _ => .inr rfl
  | hover other next =>
      dsimp only [make, adjust] at found
      split at found
      · next here =>
          obtain ⟨standing, known, rfl⟩ := Option.map_eq_some_iff.mp found
          cases aims
          rw [here]
      · exact kept (flight.standing?_bidFarewell other) found
  | leave other =>
      dsimp only [make] at found
      split at found
      · exact kept rfl found
      · split at found
        · exact adjusted rfl found fun _ => .inl rfl
        · exact kept rfl found
  | passRelease other root => exact kept rfl found
  | settle other =>
      exact adjusted (flight.standing?_bidFarewell other) found fun _ => .inl rfl
  | turnAway other target => exact adjusted rfl found fun _ => .inl rfl
  | land other target => exact adjusted rfl found fun _ => .inl rfl

theorem Single.originTarget_make (single : flight.Single) (admitted : flight.Admits turn)
    (flying : flight.inFlight = some node) (known : flight.standing? node = some standing)
    (lasts : (flight.make turn).inFlight = some node)
    (found : (flight.make turn).standing? node = some made) :
    made.originTarget = standing.originTarget := by
  have kept {earlier : Flight} (same : earlier.standing? = flight.standing?)
      (found : earlier.standing? node = some made) :
      made.originTarget = standing.originTarget := by
    rw [same, known] at found
    cases found
    rfl
  have adjusted {earlier : Flight} {other : NodeId} {change : Standing → Standing}
      (same : earlier.standing? = flight.standing?)
      (found : (earlier.adjust other change).standing? node = some made)
      (keeps : ∀ standing, (change standing).originTarget = standing.originTarget) :
      made.originTarget = standing.originTarget := by
    dsimp only [Flight.adjust] at found
    split at found
    · next here =>
        rw [same, ← here, known] at found
        cases found
        exact keeps standing
    · exact kept same found
  -- whoever rests is not the one in flight
  have rests {other : NodeId}
      (resting : ∃ standing, flight.standing? other = some standing ∧ standing.isInFlight = false)
      (here : node = other) : made.originTarget = standing.originTarget := by
    subst here
    obtain ⟨same, refound, rests⟩ := resting
    exact absurd flying (single.inFlight_ne refound rests)
  cases turn with
  | stay => exact kept rfl found
  | takeNotices => exact kept rfl found
  | register other phase =>
      dsimp only [Flight.make] at found
      split at found
      · next here =>
          subst here
          cases admitted.1.symm.trans known
      · exact kept rfl found
  | launch other origin => exact rests admitted.1 (admitted.2 node flying)
  | pull other container => exact rests admitted.1 (admitted.2 node flying)
  | ground other =>
      by_cases here : node = other
      · exact rests admitted here
      · exact kept rfl ((if_neg here).symm.trans found)
  | hover other target =>
      exact adjusted (flight.standing?_bidFarewell other) found fun _ => rfl
  | leave target =>
      dsimp only [Flight.make] at found
      split at found
      · exact kept rfl found
      · split at found
        · exact adjusted rfl found fun _ => rfl
        · exact kept rfl found
  | passRelease target root => exact kept rfl found
  | settle other =>
      have otherFlies := (single.inFlight_iff other).mpr admitted
      simp [Flight.make, Flight.settle, finish, Flight.adjust, otherFlies] at lasts
  | turnAway other target =>
      simp [Flight.make, Flight.turnAway, finish, Flight.adjust, admitted.1] at lasts
  | land other target => cases lasts

end Flight

namespace Session

variable {session after : Session} {node target : NodeId} {event : Event} {hooks : Hooks}

theorem Follows.eq_hover {before : Flight} {turn : Turn} (follows : Follows before turn after)
    (aims : (after.dockable? node).bind Dockable.activeTarget = some target)
    (anew : before.activeTarget? node ≠ some target) : turn = .hover node target := by
  obtain ⟨gone, _, flight_eq⟩ := follows.flight_eq
  rw [← activeTarget?_flight, flight_eq, Flight.activeTarget?, Flight.standing?_forget] at aims
  split at aims
  · cases aims
  · obtain ⟨standing, found, aims⟩ := Option.bind_eq_some_iff.mp aims
    obtain ⟨made, foundMade, rfl⟩ := Option.map_eq_some_iff.mp found
    refine Flight.eq_hover_of_make foundMade ?_ anew
    dsimp only [Standing.forget] at aims
    split at aims
    · cases aims
    · exact aims

/-- A flight remembers its origin until the origin is destroyed. -/
theorem Follows.originTarget {turn : Turn} (orderly : session.Orderly)
    (follows : Follows session.flight turn after) (flying : session.inFlight = some node)
    (lasts : after.inFlight = some node) {earlier later : Dockable}
    (known : session.dockable? node = some earlier) (found : after.dockable? node = some later) :
    later.originTarget = earlier.originTarget ∨
      later.originTarget = none ∧
        ∃ origin, earlier.originTarget = some origin ∧ after.tree.Lost origin := by
  obtain ⟨gone, lost, flight_eq⟩ := follows.flight_eq
  have stays : (session.flight.make turn).inFlight = some node := by
    have airborne : after.flight.inFlight = some node := lasts
    rw [flight_eq, Flight.inFlight_forget fun _ => (orderly.single.make
      follows.admitted).registered] at airborne
    exact (Option.filter_eq_some_iff.mp airborne).1
  have stands := standing?_of_dockable? found
  rw [flight_eq, Flight.standing?_forget] at stands
  split at stands
  · cases stands
  · obtain ⟨made, foundMade, forgotten⟩ := Option.map_eq_some_iff.mp stands
    have same := orderly.single.originTarget_make follows.admitted flying
      (standing?_of_dockable? known) stays foundMade
    have origin_eq : (made.forget gone).originTarget = later.originTarget :=
      congrArg Standing.originTarget forgotten
    rw [← origin_eq, Standing.forget, same]
    dsimp only
    split
    · next leads =>
        cases origin : earlier.originTarget with
        | none => exact .inl rfl
        | some container =>
            rw [show earlier.standing.originTarget = some container from origin] at leads
            exact .inr ⟨rfl, container, rfl, lost container (List.contains_iff_mem.mp leads)⟩
    · exact .inl rfl

/-- What may take a dockable: another widget, not below it, and not where it came from. -/
structure Foreign (session : Session) (target node : NodeId) : Prop where
  apart : target ≠ node
  outside : target ∉ session.tree.descendants node
  elsewhere : (session.dockable? node).bind Dockable.originTarget ≠ some target

theorem refusesItself_eq_false_iff (wellFormed : session.tree.WellFormed) :
    session.refusesItself target node = false ↔ session.Foreign target node := by
  rw [Bool.eq_false_iff, refusesItself]
  simp only [ne_eq, Bool.or_eq_true, decide_eq_true_eq, not_or, wellFormed.isAncestor_iff,
    ← wellFormed.mem_descendants_iff]
  constructor
  · rintro ⟨⟨apart, outside⟩, elsewhere⟩
    exact ⟨apart, outside, elsewhere⟩
  · exact fun foreign => ⟨⟨foreign.apart, foreign.outside⟩, foreign.elsewhere⟩

/-- A target is told that the dockable in flight moves over it, and becomes the active one. -/
structure Elects (session : Session) (node target : NodeId) (event : Event) (hooks : Hooks)
    (root : Point) : Prop where
  flying : session.inFlight = some node
  moves : event.motion? = some root ∨
    event.isSystemDrag = true ∧ (session.remap event).motion? = some root
  foreign : session.Foreign target node
  accepted : ∀ accept, hooks.accept = some accept → accept session.tree target node = true
  inside : hooks.hitTest.getD Scene.hits session.toScene target root = true
  consulted : ∃ told, (told = [] ∨ told = [.feedback target true]) ∧
    (session.targetEvent target event hooks).consulted =
      (if hooks.accept.isSome then [.accept target node true] else []) ++
        .hitTest target root true :: told

theorem consulted_giveFeedback (session : Session) (hooks : Hooks) (target : NodeId)
    (shown : Bool) :
    (session.giveFeedback hooks target shown).2 = [] ∨
      (session.giveFeedback hooks target shown).2 = [.feedback target shown] := by
  unfold giveFeedback Hooks.runFeedback
  split
  · dsimp only
    split
    · exact .inr rfl
    · exact .inl rfl
  · exact .inl rfl

theorem consulted_isCandidate (session : Session) (target node : NodeId) (root : Point)
    (hooks : Hooks) :
    (session.refusesItself target node = true ∧
        session.isCandidate target node root hooks = (false, [])) ∨
      session.refusesItself target node = false ∧
        ((∃ accept, hooks.accept = some accept ∧ accept session.tree target node = false ∧
            session.isCandidate target node root hooks =
              (false, [.accept target node false])) ∨
          (∀ accept, hooks.accept = some accept → accept session.tree target node = true) ∧
            ∃ inside, hooks.hitTest.getD Scene.hits session.toScene target root = inside ∧
              session.isCandidate target node root hooks =
                (inside, (if hooks.accept.isSome then [.accept target node true] else []) ++
                  [.hitTest target root inside])) := by
  unfold isCandidate
  cases session.refusesItself target node with
  | true => exact .inl ⟨rfl, rfl⟩
  | false =>
      refine .inr ⟨rfl, ?_⟩
      unfold Hooks.runAccept
      cases hooks.accept with
      | none => exact .inr ⟨nofun, _, rfl, rfl⟩
      | some accept =>
          cases accepted : accept session.tree target node with
          | false =>
              refine .inl ⟨accept, rfl, accepted, ?_⟩
              simp [accepted]
          | true =>
              refine .inr ⟨fun _ same => Option.some.inj same ▸ accepted, _, rfl, ?_⟩
              simp [accepted, Hooks.runHitTest]

/-! ### Coming to be the active target -/

/-- The new active target is the one that the event was for, and the dockable was in flight. -/
theorem hover_of_targetEvent (orderly : session.Orderly) {other : NodeId}
    (aims : (((session.targetEvent other event hooks).session).dockable? node).bind
      Dockable.activeTarget = some target)
    (anew : (session.dockable? node).bind Dockable.activeTarget ≠ some target) :
    other = target ∧ session.inFlight = some node := by
  rw [← activeTarget?_flight] at anew
  obtain ⟨turn, makes⟩ := makes_targetEvent orderly.wellFormed other hooks event
  cases makes.follows.eq_hover aims anew
  refine ⟨?_, makes.follows.admitted.1⟩
  rcases makes.hears with ⟨quiet, _⟩ | ⟨shown, told, _⟩
  · cases quiet
  · cases told
    rfl

theorem elects_of_isCandidate (wellFormed : session.tree.WellFormed)
    (flying : session.inFlight = some node) {root : Point}
    (moves : (session.remap event).motion? = some root)
    (inside : (session.isCandidate target node root hooks).1 = true) {told : List HookCall}
    (feedback : told = [] ∨ told = [.feedback target true])
    (consulted : (session.targetEvent target event hooks).consulted =
      (session.isCandidate target node root hooks).2 ++ told) :
    session.Elects node target event hooks root := by
  have meant : event.motion? = some root ∨
      event.isSystemDrag = true ∧ (session.remap event).motion? = some root := by
    cases system : event.isSystemDrag with
    | true => exact .inr ⟨rfl, moves⟩
    | false =>
        rw [remap, system] at moves
        exact .inl moves
  rcases session.consulted_isCandidate target node root hooks with
    ⟨_, same⟩ | ⟨foreign, ⟨_, _, _, same⟩ | ⟨accepted, _, hit, same⟩⟩
  · rw [same] at inside
    cases inside
  · rw [same] at inside
    cases inside
  · rw [same] at inside consulted
    cases inside
    refine ⟨flying, meant, (refusesItself_eq_false_iff wellFormed).mp foreign, accepted, hit,
      told, feedback, ?_⟩
    rw [consulted, List.append_assoc]
    rfl

theorem elects_targetEvent (orderly : session.Orderly)
    (aims : (((session.targetEvent target event hooks).session).dockable? node).bind
      Dockable.activeTarget = some target)
    (anew : (session.dockable? node).bind Dockable.activeTarget ≠ some target) :
    ∃ root, session.Elects node target event hooks root := by
  obtain ⟨_, flying⟩ := hover_of_targetEvent orderly aims anew
  have heard := session.heard_targetEvent target event hooks
  generalize same : session.targetEvent target event hooks = reaction at aims heard
  cases heard with
  | ignored status => exact absurd aims anew
  | left leaves =>
      rw [← activeTarget?_flight] at anew
      cases (makes_targetLeave orderly.wellFormed target hooks).follows.eq_hover aims anew
  | tornOut grounded moves => exact nomatch flying.symm.trans grounded
  | released alsoFlying still aiming =>
      cases flying.symm.trans alsoFlying
      exact absurd aiming anew
  | @moved dragged root alsoFlying moves =>
      cases flying.symm.trans alsoFlying
      have moved := session.moved_targetMotion node target hooks root
      generalize session.targetMotion target node root hooks = reaction at same aims moved
      cases moved with
      | unknown missing => exact absurd aims anew
      | refused found outside elsewhere => exact absurd aims anew
      | kept found inside keeps => exact absurd aims anew
      | left found outside here =>
          rw [found] at anew
          exact absurd here anew
      | taken found inside takes =>
          have consulted := congrArg Reaction.consulted same
          exact ⟨root, elects_of_isCandidate orderly.wellFormed flying moves inside
            (consulted_giveFeedback _ hooks target true) consulted⟩

/-- Whatever else an operation does, it makes no target the active one. -/
theorem elects_perform (orderly : session.Orderly) {operation : Operation}
    (aims : ((session.perform operation).dockable? node).bind Dockable.activeTarget =
      some target)
    (anew : (session.dockable? node).bind Dockable.activeTarget ≠ some target) :
    ∃ event hooks root, operation = .targetEvent target event hooks ∧
      session.Elects node target event hooks root := by
  have still : session.flight.activeTarget? node ≠ some target := by
    rwa [activeTarget?_flight]
  have quietly (quiet : operation.isQuiet = true) : False := by
    obtain ⟨turn, quiet, follows⟩ := session.followsQuietly_perform orderly.wellFormed quiet
    cases follows.eq_hover aims still
    cases quiet
  cases operation with
  | create plan =>
      rcases session.follows_create orderly.fresh plan with same | ⟨_, phase, follows⟩
      · rw [perform, same] at aims
        exact absurd aims anew
      · cases follows.eq_hover aims still
  | targetEvent other event hooks =>
      obtain ⟨rfl, _⟩ := hover_of_targetEvent orderly aims anew
      obtain ⟨root, elects⟩ := elects_targetEvent orderly aims anew
      exact ⟨event, hooks, root, rfl, elects⟩
  | takeNotices => exact absurd aims anew
  | _ => exact (quietly rfl).elim

/-! ### What is asked -/

/-- Over itself, what hangs below it, or its origin, the dockable is not offered to anyone. -/
theorem consulted_of_not_foreign (orderly : session.Orderly)
    (flying : session.inFlight = some node) {root : Point}
    (moves : (session.remap event).motion? = some root)
    (refuses : ¬ session.Foreign target node) :
    ∀ call ∈ (session.targetEvent target event hooks).consulted, call = .feedback target false := by
  rw [← refusesItself_eq_false_iff orderly.wellFormed, Bool.not_eq_false] at refuses
  have heard := session.heard_targetEvent target event hooks
  generalize session.targetEvent target event hooks = reaction at heard ⊢
  cases heard with
  | ignored status => exact nofun
  | left leaves =>
      rw [leaves] at moves
      cases moves
  | tornOut grounded _ => exact nomatch flying.symm.trans grounded
  | released _ still _ => exact nomatch still.symm.trans moves
  | @moved dragged root alsoFlying _ =>
      cases flying.symm.trans alsoFlying
      have unasked : session.isCandidate target node root hooks = (false, []) := by
        rw [isCandidate, refuses, if_pos rfl]
      have moved := session.moved_targetMotion node target hooks root
      generalize session.targetMotion target node root hooks = reaction at moved ⊢
      cases moved with
      | unknown missing =>
          rw [unasked]
          exact nofun
      | refused found outside elsewhere =>
          rw [unasked]
          exact nofun
      | left found outside here =>
          rw [unasked, List.nil_append]
          rcases session.consulted_giveFeedback hooks target false with told | told
          · rw [told]
            exact nofun
          · rw [told]
            exact fun call => List.mem_singleton.mp
      | kept found inside keeps =>
          rw [unasked] at inside
          cases inside
      | taken found inside takes =>
          rw [unasked] at inside
          cases inside

theorem isHitTest_giveFeedback (session : Session) (hooks : Hooks) (target : NodeId)
    (shown : Bool) : (session.giveFeedback hooks target shown).2.any HookCall.isHitTest = false := by
  rcases session.consulted_giveFeedback hooks target shown with told | told
  · rw [told]
    rfl
  · rw [told]
    rfl

theorem isHitTest_dock (session : Session) (target node : NodeId) (root : Point) (hooks : Hooks) :
    (session.dock target node root hooks).consulted.any HookCall.isHitTest = false := by
  have accepted : (hooks.runAccept session.tree target node).2.any HookCall.isHitTest = false := by
    unfold Hooks.runAccept
    split <;> rfl
  unfold dock turnAway Hooks.runInsert
  dsimp only
  split
  · split
    · simp [accepted, isHitTest_giveFeedback, HookCall.isHitTest]
    · simp [accepted, isHitTest_giveFeedback, HookCall.isHitTest]
  · simp [accepted, isHitTest_giveFeedback]

theorem isHitTest_tearOutChild (session : Session) (target : NodeId) (root : Point)
    (hooks : Hooks) :
    (session.tearOutChild target root hooks).consulted.any HookCall.isHitTest = false := by
  unfold tearOutChild
  split
  · rfl
  · split
    · rfl
    · dsimp only
      split <;> rfl

theorem isHitTest_of_vetoed {asked dragged : NodeId}
    (vetoed : .accept asked dragged false ∈ (session.targetEvent target event hooks).consulted) :
    (session.targetEvent target event hooks).consulted.any HookCall.isHitTest = false := by
  have heard := session.heard_targetEvent target event hooks
  generalize session.targetEvent target event hooks = reaction at vetoed heard ⊢
  cases heard with
  | ignored status => rfl
  | left leaves => exact session.isHitTest_giveFeedback hooks target false
  | tornOut grounded moves => exact session.isHitTest_tearOutChild target _ hooks
  | released flying still aiming => exact session.isHitTest_dock target _ _ hooks
  | @moved node root flying moves =>
      have candidate : .accept asked dragged false ∈
          (session.isCandidate target node root hooks).2 →
          (session.isCandidate target node root hooks).1 = false ∧
            (session.isCandidate target node root hooks).2.any HookCall.isHitTest = false := by
        rcases session.consulted_isCandidate target node root hooks with
          ⟨_, same⟩ | ⟨_, ⟨_, _, _, same⟩ | ⟨_, _, _, same⟩⟩
        · rw [same]
          exact fun _ => ⟨rfl, rfl⟩
        · rw [same]
          exact fun _ => ⟨rfl, rfl⟩
        · rw [same]
          intro member
          split at member <;> simp at member
      have apart (earlier : Session) (shown : Bool) :
          .accept asked dragged false ∉ (earlier.giveFeedback hooks target shown).2 := by
        rcases earlier.consulted_giveFeedback hooks target shown with told | told
        · simp [told]
        · simp [told]
      have moved := session.moved_targetMotion node target hooks root
      generalize session.targetMotion target node root hooks = reaction at vetoed moved ⊢
      cases moved with
      | unknown missing => exact (candidate vetoed).2
      | refused found outside elsewhere => exact (candidate vetoed).2
      | left found outside here =>
          rw [List.any_append, isHitTest_giveFeedback, Bool.or_false]
          exact (candidate ((List.mem_append.mp vetoed).resolve_right (apart _ _))).2
      | kept found inside keeps => exact (candidate vetoed).2
      | taken found inside takes =>
          have agreed := (candidate ((List.mem_append.mp vetoed).resolve_right (apart _ _))).1
          exact nomatch agreed.symm.trans inside

/-! ### Over a whole flight -/

theorem exists_follows_perform (orderly : session.Orderly) (operation : Operation) :
    ∃ turn, Follows session.flight turn (session.perform operation) := by
  rcases follows_perform orderly operation with ⟨turn, _, follows⟩ | ⟨node, root, rfl, strands⟩
  · exact ⟨turn, follows⟩
  · exact ⟨.ground node, strands.follows⟩

theorem inFlight_of_activeTarget (orderly : session.Orderly)
    (aims : (session.dockable? node).bind Dockable.activeTarget = some target) :
    session.inFlight = some node := by
  obtain ⟨dockable, found, aims⟩ := Option.bind_eq_some_iff.mp aims
  have hovering : dockable.phase = .hovering :=
    (orderly.single.sound node _ (standing?_of_dockable? found)).hovering_iff.mpr
      (Option.isSome_of_eq_some aims)
  exact (orderly.single.inFlight_iff node).mpr
    ⟨_, standing?_of_dockable? found, congrArg Phase.isInFlight hovering⟩

def LeavesOrigin (session : Session) : Prop :=
  ∀ node dockable, session.dockable? node = some dockable → ∀ target,
    dockable.activeTarget = some target → dockable.originTarget ≠ some target

theorem LeavesOrigin.perform (leaves : session.LeavesOrigin) (orderly : session.Orderly)
    (operation : Operation) : (session.perform operation).LeavesOrigin := by
  intro node later found target aims back
  have aiming : ((session.perform operation).dockable? node).bind Dockable.activeTarget =
      some target := by
    rw [found]
    exact aims
  have lasts := inFlight_of_activeTarget (orderly.perform operation) aiming
  obtain ⟨turn, follows⟩ := exists_follows_perform orderly operation
  -- it was in flight before, and out of the same container
  have came (flying : session.inFlight = some node) :
      ∃ earlier, session.dockable? node = some earlier ∧ earlier.originTarget = some target := by
    obtain ⟨earlier, known, _⟩ := orderly.dockable?_of_inFlight flying
    rcases follows.originTarget orderly flying lasts known found with same | ⟨cleared, _⟩
    · exact ⟨earlier, known, same.symm.trans back⟩
    · exact nomatch cleared.symm.trans back
  by_cases before : (session.dockable? node).bind Dockable.activeTarget = some target
  · obtain ⟨earlier, known, out⟩ := came (inFlight_of_activeTarget orderly before)
    rw [known] at before
    exact leaves node earlier known target before out
  · obtain ⟨event, hooks, root, _, elects⟩ := elects_perform orderly aiming before
    obtain ⟨earlier, known, out⟩ := came elects.flying
    apply elects.foreign.elsewhere
    rw [known]
    exact out

theorem leavesOrigin_run (desktop : Desktop) (settings : Settings) (operations : List Operation) :
    ((start desktop settings).run operations).LeavesOrigin := by
  have both : ((start desktop settings).run operations).Orderly ∧
      ((start desktop settings).run operations).LeavesOrigin :=
    run_induction (motive := fun session => session.Orderly ∧ session.LeavesOrigin)
      ⟨.start desktop settings, fun _ _ found => nomatch found⟩
      (fun _ operation both => ⟨both.1.perform operation, both.2.perform both.1 operation⟩)
      operations
  exact both.2

/-- The dockable was torn out of a container, which it remembers as long as that exists. -/
def CameFrom (session : Session) (node origin : NodeId) : Prop :=
  ∃ dockable, session.dockable? node = some dockable ∧
    (dockable.originTarget = some origin ∨
      dockable.originTarget = none ∧ session.tree.Lost origin)

theorem CameFrom.perform {origin : NodeId} (came : session.CameFrom node origin)
    (orderly : session.Orderly) (flying : session.inFlight = some node) {operation : Operation}
    (lasts : (session.perform operation).inFlight = some node) :
    (session.perform operation).CameFrom node origin := by
  obtain ⟨earlier, known, out⟩ := came
  obtain ⟨later, found, _⟩ := (orderly.perform operation).dockable?_of_inFlight lasts
  obtain ⟨turn, follows⟩ := exists_follows_perform orderly operation
  refine ⟨later, found, ?_⟩
  rcases follows.originTarget orderly flying lasts known found with same | ⟨cleared, lost⟩
  · rw [same]
    exact out.imp_right fun ⟨cleared, lost⟩ =>
      ⟨cleared, (session.evolves_perform operation).lost orderly.wellFormed lost⟩
  · obtain ⟨container, wasOut, gone⟩ := lost
    refine .inr ⟨cleared, ?_⟩
    rcases out with out | ⟨none, _⟩
    · cases out.symm.trans wasOut
      exact gone
    · exact nomatch none.symm.trans wasOut

theorem CameFrom.run {origin : NodeId} (came : session.CameFrom node origin)
    (orderly : session.Orderly) {operations : List Operation}
    (flying : ∀ first rest, operations = first ++ rest →
      (session.run first).inFlight = some node) :
    (session.run operations).CameFrom node origin := by
  induction operations generalizing session with
  | nil => exact came
  | cons operation rest induction =>
      have lasts : (session.perform operation).inFlight = some node := flying [operation] rest rfl
      refine induction (came.perform orderly (flying [] _ rfl) lasts) (orderly.perform operation) ?_
      intro first others split
      exact flying (operation :: first) others (congrArg (operation :: ·) split)

/-- The dockable in flight comes over other widgets only, and over those that agree. -/
structure ChoosesOthers (session : Session) : Prop where
  elects : ∀ operation node target,
    ((session.perform operation).dockable? node).bind Dockable.activeTarget = some target →
    (session.dockable? node).bind Dockable.activeTarget ≠ some target →
    ∃ event hooks root, operation = .targetEvent target event hooks ∧
      session.Elects node target event hooks root
  unasked : ∀ node target event hooks root, session.inFlight = some node →
    (session.remap event).motion? = some root → ¬ session.Foreign target node →
    ∀ call ∈ (session.targetEvent target event hooks).consulted, call = .feedback target false
  vetoed : ∀ target event hooks asked dragged,
    .accept asked dragged false ∈ (session.targetEvent target event hooks).consulted →
    (session.targetEvent target event hooks).consulted.any HookCall.isHitTest = false
  leaves : session.LeavesOrigin
  /-- For as long as the flight lasts, the origin is remembered and is not the active target. -/
  origin : ∀ node dockable origin operations, session.dockable? node = some dockable →
    dockable.originTarget = some origin →
    (∀ first rest, operations = first ++ rest → (session.run first).inFlight = some node) →
    ∃ flown, (session.run operations).dockable? node = some flown ∧
      (flown.originTarget = some origin ∧ flown.activeTarget ≠ some origin ∨
        flown.originTarget = none ∧ (session.run operations).tree.Lost origin)

theorem choosesOthers_run (desktop : Desktop) (settings : Settings)
    (operations : List Operation) :
    ((start desktop settings).run operations).ChoosesOthers := by
  have orderly := orderly_run desktop settings operations
  constructor
  · intro operation node target aims anew
    exact elects_perform orderly aims anew
  · intro node target event hooks root flying moves refuses
    exact consulted_of_not_foreign orderly flying moves refuses
  · intro target event hooks asked dragged vetoed
    exact isHitTest_of_vetoed vetoed
  · exact leavesOrigin_run desktop settings operations
  · intro node dockable origin later known out flying
    have came : ((start desktop settings).run operations).CameFrom node origin :=
      ⟨dockable, known, .inl out⟩
    obtain ⟨flown, found, same | lost⟩ := came.run orderly flying
    · refine ⟨flown, found, .inl ⟨same, fun aims => ?_⟩⟩
      have leaves := leavesOrigin_run desktop settings (operations ++ later)
      rw [run_append] at leaves
      exact leaves node flown found origin aims same
    · exact ⟨flown, found, .inr lost⟩

end Session
end Docking

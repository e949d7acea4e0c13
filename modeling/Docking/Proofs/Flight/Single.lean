import Docking.Proofs.Flight.Turn

namespace Docking.Flight

/-! At most one dockable is in flight, and it is the one that the session knows of. Every
turn keeps this true, and so does every destruction. -/

structure Single (flight : Flight) : Prop where
  inFlight_iff : ∀ node, flight.inFlight = some node ↔
    ∃ standing, flight.standing? node = some standing ∧ standing.isInFlight = true
  sound : ∀ node standing, flight.standing? node = some standing → standing.Sound

namespace Single

variable {flight : Flight}

theorem empty (outbox : List Notice) : Single ⟨fun _ => none, none, outbox⟩ where
  inFlight_iff _ := ⟨fun flying => (nomatch flying), fun ⟨_, found, _⟩ => (nomatch found)⟩
  sound _ _ found := nomatch found

variable (single : flight.Single)
include single

theorem transfer {after : Flight} (standing?_eq : after.standing? = flight.standing?)
    (inFlight_eq : after.inFlight = flight.inFlight) : after.Single where
  inFlight_iff node := by
    rw [standing?_eq, inFlight_eq]
    exact single.inFlight_iff node
  sound := by
    rw [standing?_eq]
    exact single.sound

theorem registered {node : NodeId} (flying : flight.inFlight = some node) :
    ∃ standing, flight.standing? node = some standing :=
  let ⟨standing, found, _⟩ := (single.inFlight_iff node).mp flying
  ⟨standing, found⟩

theorem inFlight_ne {node : NodeId} {standing : Standing}
    (found : flight.standing? node = some standing) (resting : standing.isInFlight = false) :
    flight.inFlight ≠ some node := by
  intro flying
  obtain ⟨same, refound, inFlight⟩ := (single.inFlight_iff node).mp flying
  rw [found] at refound
  cases refound
  rw [resting] at inFlight
  cases inFlight

theorem atRest (grounded : flight.inFlight = none) {node : NodeId} {standing : Standing}
    (found : flight.standing? node = some standing) :
    standing.activeTarget = none ∧ standing.originTarget = none := by
  have resting : standing.isInFlight = false := by
    rw [Bool.eq_false_iff]
    exact fun flies => nomatch grounded.symm.trans
      ((single.inFlight_iff node).mpr ⟨standing, found, flies⟩)
  have sound := single.sound node standing found
  refine ⟨sound.activeTarget_eq_none fun hovering => ?_, sound.originTarget_eq_none resting⟩
  rw [Standing.isInFlight, hovering] at resting
  cases resting

theorem adjust {node : NodeId} {standing : Standing}
    (found : flight.standing? node = some standing) {change : Standing → Standing}
    {after : Flight} (standing?_eq : after.standing? = (flight.adjust node change).standing?)
    (sound : (change standing).Sound)
    (self : after.inFlight = some node ↔ (change standing).isInFlight = true)
    (others : ∀ other, other ≠ node →
      (after.inFlight = some other ↔ flight.inFlight = some other)) : after.Single where
  inFlight_iff other := by
    rw [standing?_eq]
    by_cases same : other = node
    · subst same
      simp [Flight.adjust, found, self]
    · rw [others other same, single.inFlight_iff]
      simp [Flight.adjust, same]
  sound other result refound := by
    rw [standing?_eq] at refound
    dsimp only [Flight.adjust] at refound
    split at refound
    · rw [found] at refound
      cases refound
      exact sound
    · exact single.sound other result refound

theorem bidFarewell (node : NodeId) : (flight.bidFarewell node).Single :=
  single.transfer (flight.standing?_bidFarewell node) (flight.inFlight_bidFarewell node)

omit single in
private theorem others_of_inFlight {node : NodeId} (flying : flight.inFlight = some node)
    (other : NodeId) (apart : other ≠ node) :
    (none : Option NodeId) = some other ↔ flight.inFlight = some other := by
  rw [flying, Option.some.injEq]
  exact ⟨fun impossible => (nomatch impossible), fun same => absurd same.symm apart⟩

theorem turnAway {node : NodeId} (flying : flight.inFlight = some node) :
    (flight.turnAway node).Single := by
  obtain ⟨standing, found⟩ := single.registered flying
  refine single.adjust found rfl (.atRest rfl) ?_ ?_
  · simp [Flight.turnAway, finish, Flight.adjust, flying]
    decide
  · intro other apart
    rw [← others_of_inFlight flying other apart]
    simp [Flight.turnAway, finish, Flight.adjust, flying]

theorem settle {node : NodeId} (flying : flight.inFlight = some node) :
    (flight.settle node).Single :=
  (single.bidFarewell node).turnAway ((flight.inFlight_bidFarewell node).trans flying)

theorem land {node : NodeId} (target : NodeId) (flying : flight.inFlight = some node) :
    (flight.make (.land node target)).Single := by
  obtain ⟨standing, found⟩ := single.registered flying
  refine single.adjust found rfl (.atRest rfl) ?_ ?_
  · simp [Flight.make, Standing.isInFlight, Standing.atRest, Phase.isInFlight]
  · exact others_of_inFlight flying

theorem launch {node : NodeId} {standing : Standing} (origin : Option NodeId)
    (found : flight.standing? node = some standing)
    (alone : ∀ other, flight.inFlight = some other → other = node) :
    (flight.make (.launch node origin)).Single := by
  refine single.adjust found rfl ⟨by simp, fun _ => rfl⟩ ?_ ?_
  · simp [Flight.make, Standing.isInFlight, Phase.isInFlight]
  · intro other apart
    constructor
    · intro same
      exact absurd (Option.some.inj same).symm apart
    · intro flying
      exact absurd (alone other flying) apart

theorem register {node : NodeId} {phase : Phase} (fresh : flight.standing? node = none)
    (resting : phase.isInFlight = false) : (flight.make (.register node phase)).Single where
  inFlight_iff other := by
    simp only [Flight.make]
    rw [single.inFlight_iff]
    split
    · next same =>
        subst same
        rw [fresh]
        constructor
        · rintro ⟨_, found, _⟩
          cases found
        · rintro ⟨_, found, flying⟩
          cases found
          exact nomatch resting.symm.trans flying
    · rfl
  sound other standing found := by
    dsimp only [Flight.make] at found
    split at found
    · cases found
      exact .atRest resting
    · exact single.sound other standing found

theorem ground {node : NodeId} {standing : Standing}
    (found : flight.standing? node = some standing) (resting : standing.isInFlight = false) :
    (flight.make (.ground node)).Single := by
  have sound := single.sound node standing found
  have noTarget : standing.activeTarget = none := by
    apply sound.activeTarget_eq_none
    rintro hovering
    rw [Standing.isInFlight, hovering] at resting
    cases resting
  have noOrigin := sound.originTarget_eq_none resting
  refine single.adjust found rfl ⟨?_, ?_⟩ ?_ fun _ _ => Iff.rfl
  · simp [Standing.enter, noTarget]
  · simp [Standing.enter, noOrigin]
  · exact ⟨fun flying => absurd flying (single.inFlight_ne found resting),
      fun flying => nomatch flying⟩

theorem aim {node : NodeId} (flying : flight.inFlight = some node) {after : Flight}
    {target : Option NodeId} {phase : Phase} (hovers : phase = .hovering ↔ target.isSome = true)
    (inFlight : phase.isInFlight = true)
    (standing?_eq : after.standing? = (flight.adjust node fun standing =>
      (standing.aim target).enter phase).standing?)
    (inFlight_eq : after.inFlight = flight.inFlight) : after.Single := by
  obtain ⟨standing, found⟩ := single.registered flying
  refine single.adjust found standing?_eq ⟨hovers, fun _ => inFlight⟩ ?_ ?_
  · rw [inFlight_eq]
    exact ⟨fun _ => inFlight, fun _ => flying⟩
  · intro other _
    rw [inFlight_eq]

theorem leave (target : NodeId) : (flight.make (.leave target)).Single := by
  dsimp only [Flight.make]
  split
  · exact single
  · next node flying =>
      split
      · exact single.aim flying (by decide) rfl rfl rfl
      · exact single

theorem hover {node : NodeId} (target : NodeId) (flying : flight.inFlight = some node) :
    (flight.make (.hover node target)).Single :=
  (single.bidFarewell node).aim ((flight.inFlight_bidFarewell node).trans flying) (by simp)
    rfl rfl rfl

theorem make {turn : Turn} (admitted : flight.Admits turn) : (flight.make turn).Single := by
  cases turn with
  | stay => exact single
  | takeNotices => exact single.transfer rfl rfl
  | register node phase => exact single.register admitted.1 admitted.2
  | launch node origin =>
      obtain ⟨⟨standing, found, _⟩, alone⟩ := admitted
      exact single.launch origin found alone
  | pull node container =>
      obtain ⟨⟨standing, found, _⟩, alone⟩ := admitted
      exact (single.launch (some container) found alone).transfer rfl rfl
  | ground node =>
      obtain ⟨standing, found, resting⟩ := admitted
      exact single.ground found resting
  | hover node target => exact single.hover target admitted.1
  | leave target => exact single.leave target
  | passRelease target root => exact single.transfer rfl rfl
  | settle node => exact single.settle ((single.inFlight_iff node).mpr admitted)
  | turnAway node target => exact single.turnAway admitted.1
  | land node target => exact single.land target admitted.1

theorem erase {node : NodeId} {after : Flight}
    (standing?_eq : after.standing? = fun other =>
      if other = node then none else flight.standing? other)
    (self : after.inFlight ≠ some node)
    (others : ∀ other, other ≠ node →
      (after.inFlight = some other ↔ flight.inFlight = some other)) : after.Single where
  inFlight_iff other := by
    simp only [standing?_eq]
    split
    · next same =>
        subst same
        exact ⟨fun flying => absurd flying self, fun ⟨_, found, _⟩ => (nomatch found)⟩
    · next apart => rw [others other apart, single.inFlight_iff]
  sound other standing found := by
    simp only [standing?_eq] at found
    split at found
    · cases found
    · exact single.sound other standing found

theorem dismiss (gone : List NodeId) (node : NodeId) :
    (Flight.dismiss gone flight node).Single := by
  unfold Flight.dismiss
  split
  · exact single
  · dsimp only
    split
    · next flying =>
        split
        · exact single.erase rfl (fun impossible => nomatch impossible)
            (others_of_inFlight flying)
        · split
          · exact single.erase rfl (fun impossible => nomatch impossible)
              (others_of_inFlight flying)
          · exact single.erase rfl (fun impossible => nomatch impossible)
              (others_of_inFlight flying)
    · next apart => exact single.erase rfl apart fun _ _ => Iff.rfl

theorem clearReferences (gone : List NodeId) : (Flight.clearReferences gone flight).Single where
  inFlight_iff node := by
    simp only [Flight.clearReferences, Option.map_eq_some_iff]
    rw [single.inFlight_iff]
    constructor
    · rintro ⟨standing, found, flying⟩
      exact ⟨_, ⟨standing, found, rfl⟩, (standing.isInFlight_forget gone).trans flying⟩
    · rintro ⟨_, ⟨standing, found, rfl⟩, flying⟩
      exact ⟨standing, found, (standing.isInFlight_forget gone).symm.trans flying⟩
  sound node standing found := by
    simp only [Flight.clearReferences, Option.map_eq_some_iff] at found
    obtain ⟨earlier, earlierFound, rfl⟩ := found
    exact (single.sound node earlier earlierFound).forget gone

omit single in
private theorem foldl_dismiss (single : flight.Single) (gone nodes : List NodeId) :
    (nodes.foldl (Flight.dismiss gone) flight).Single := by
  induction nodes generalizing flight with
  | nil => exact single
  | cons node rest induction => exact induction (single.dismiss gone node)

theorem forget (gone : List NodeId) : (flight.forget gone).Single :=
  (single.foldl_dismiss gone gone).clearReferences gone

end Single
end Docking.Flight

import Docking.Proofs.Flight.Turn

namespace Docking.Flight

/-! The nodes that a flight refers to, and where new references come from. -/

/-- A registered node, or a target that one is aimed at or was torn out of. -/
def Refers (flight : Flight) (reference : NodeId) : Prop :=
  ∃ node standing, flight.standing? node = some standing ∧
    (node = reference ∨ standing.activeTarget = some reference ∨
      standing.originTarget = some reference)

variable {flight : Flight} {node reference : NodeId}

theorem refers_congr {after : Flight} (same : after.standing? = flight.standing?)
    (refers : after.Refers reference) : flight.Refers reference := by
  obtain ⟨node, standing, found, leads⟩ := refers
  exact ⟨node, standing, same ▸ found, leads⟩

theorem refers_adjust {change : Standing → Standing}
    (refers : (flight.adjust node change).Refers reference) :
    flight.Refers reference ∨ ∃ standing, flight.standing? node = some standing ∧
      ((change standing).activeTarget = some reference ∨
        (change standing).originTarget = some reference) := by
  obtain ⟨other, standing, found, leads⟩ := refers
  dsimp only [adjust] at found
  split at found
  · next here =>
      obtain ⟨earlier, known, rfl⟩ := Option.map_eq_some_iff.mp found
      rcases leads with same | leads
      · exact .inl ⟨node, earlier, known, .inl (here.symm.trans same)⟩
      · exact .inr ⟨earlier, known, leads⟩
  · exact .inl ⟨other, standing, found, leads⟩

theorem refers_of_adjust {change : Standing → Standing}
    (active : ∀ standing, (change standing).activeTarget = none ∨
      (change standing).activeTarget = standing.activeTarget)
    (origin : ∀ standing, (change standing).originTarget = none ∨
      (change standing).originTarget = standing.originTarget)
    (refers : (flight.adjust node change).Refers reference) : flight.Refers reference := by
  rcases refers_adjust refers with known | ⟨standing, found, aims | leaves⟩
  · exact known
  · rcases active standing with cleared | kept
    · exact nomatch cleared.symm.trans aims
    · exact ⟨node, standing, found, .inr (.inl (kept.symm.trans aims))⟩
  · rcases origin standing with cleared | kept
    · exact nomatch cleared.symm.trans leaves
    · exact ⟨node, standing, found, .inr (.inr (kept.symm.trans leaves))⟩

def Turn.introduces : Turn → Option NodeId
  | .register node _ => some node
  | .launch _ origin => origin
  | .pull _ container => some container
  | .hover _ target => some target
  | _ => none

theorem refers_make {turn : Turn} (refers : (flight.make turn).Refers reference) :
    flight.Refers reference ∨ turn.introduces = some reference := by
  have rested {flight : Flight} {node : NodeId} {phase : Phase}
      (refers : (flight.adjust node fun _ => .atRest phase).Refers reference) :
      flight.Refers reference :=
    refers_of_adjust (fun _ => .inl rfl) (fun _ => .inl rfl) refers
  cases turn with
  | stay => exact .inl refers
  | takeNotices => exact .inl (refers_congr rfl refers)
  | register other phase =>
      obtain ⟨node, standing, found, leads⟩ := refers
      dsimp only [make] at found
      split at found
      · next here =>
          cases found
          rcases leads with same | aims | leaves
          · exact .inr (congrArg some (here.symm.trans same))
          · cases aims
          · cases leaves
      · exact .inl ⟨node, standing, found, leads⟩
  | launch node origin =>
      rcases refers_adjust (refers_congr rfl refers) with known | ⟨_, _, aims | leaves⟩
      · exact .inl known
      · cases aims
      · exact .inr leaves
  | pull node container =>
      rcases refers_adjust (refers_congr rfl refers) with known | ⟨_, _, aims | leaves⟩
      · exact .inl known
      · cases aims
      · exact .inr leaves
  | ground node =>
      refine .inl (refers_of_adjust ?_ ?_ refers)
      · exact fun _ => .inr rfl
      · exact fun _ => .inr rfl
  | hover node target =>
      rcases refers_adjust refers with known | ⟨standing, found, aims | leaves⟩
      · exact .inl (refers_congr (flight.standing?_bidFarewell node) known)
      · exact .inr aims
      · rw [standing?_bidFarewell] at found
        exact .inl ⟨node, standing, found, .inr (.inr leaves)⟩
  | leave target =>
      dsimp only [make] at refers
      split at refers
      · exact .inl refers
      · split at refers
        · refine .inl (refers_of_adjust ?_ ?_ refers)
          · exact fun _ => .inl rfl
          · exact fun _ => .inr rfl
        · exact .inl refers
  | passRelease target root => exact .inl (refers_congr rfl refers)
  | settle node =>
      have left := rested (refers_congr rfl refers)
      exact .inl (refers_congr (flight.standing?_bidFarewell node) left)
  | turnAway node target => exact .inl (rested (refers_congr rfl refers))
  | land node target => exact .inl (rested (refers_congr rfl refers))

theorem refers_forget {gone : List NodeId} (refers : (flight.forget gone).Refers reference) :
    flight.Refers reference ∧ reference ∉ gone := by
  have survives {target : Option NodeId}
      (leads : (if Session.leadsInto gone target then none else target) = some reference) :
      target = some reference ∧ reference ∉ gone := by
    split at leads
    · cases leads
    · next apart =>
        subst leads
        exact ⟨rfl, by simpa [Session.leadsInto] using apart⟩
  obtain ⟨node, standing, found, leads⟩ := refers
  rw [standing?_forget] at found
  split at found
  · cases found
  · next kept =>
      obtain ⟨earlier, known, rfl⟩ := Option.map_eq_some_iff.mp found
      rcases leads with same | aims | leaves
      · subst same
        exact ⟨⟨node, earlier, known, .inl rfl⟩, kept⟩
      · obtain ⟨aimed, present⟩ := survives aims
        exact ⟨⟨node, earlier, known, .inr (.inl aimed)⟩, present⟩
      · obtain ⟨left, present⟩ := survives leaves
        exact ⟨⟨node, earlier, known, .inr (.inr left)⟩, present⟩

end Docking.Flight

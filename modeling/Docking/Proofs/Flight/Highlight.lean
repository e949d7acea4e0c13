import Docking.Proofs.Flight.Run
import Mathlib.Logic.Function.Basic

namespace Docking

/-! Which targets show that they would take a dockable. A target is told so when the
dockable comes to hover over it, and the opposite either while it loses the dockable or by a
notice that is delivered later. -/

namespace Flight

def aimed? (flight : Flight) : Option NodeId := flight.inFlight.bind flight.activeTarget?

/-- Of the targets that are not gone, the active one is shown, and any other that is still
shown has a notice on its way. -/
structure Lit (gone : NodeId → Prop) (aimed : Option NodeId) (undelivered : List Notice)
    (shown : NodeId → Bool) : Prop where
  shown_of_aimed : ∀ target, ¬ gone target → aimed = some target → shown target = true
  aimed_or_told : ∀ target, ¬ gone target → shown target = true →
    aimed = some target ∨ ⟨target, .dockLeave⟩ ∈ undelivered

namespace Lit

variable {gone : NodeId → Prop} {aimed : Option NodeId} {undelivered : List Notice}
  {shown : NodeId → Bool} (lit : Lit gone aimed undelivered shown)
include lit

theorem mono {later : NodeId → Prop} {waiting : List Notice}
    (gone_later : ∀ node, gone node → later node)
    (waits : ∀ target, ⟨target, .dockLeave⟩ ∈ undelivered → ⟨target, .dockLeave⟩ ∈ waiting) :
    Lit later aimed waiting shown where
  shown_of_aimed target present := lit.shown_of_aimed target (mt (gone_later target) present)
  aimed_or_told target present bright :=
    (lit.aimed_or_told target (mt (gone_later target) present) bright).imp_right (waits target)

theorem release {waiting : List Notice}
    (waits : ∀ target, ⟨target, .dockLeave⟩ ∈ undelivered → ⟨target, .dockLeave⟩ ∈ waiting)
    (told : ∀ target, ¬ gone target → aimed = some target → ⟨target, .dockLeave⟩ ∈ waiting) :
    Lit gone none waiting shown where
  shown_of_aimed _ _ impossible := nomatch impossible
  aimed_or_told target present bright := by
    rcases lit.aimed_or_told target present bright with aiming | waiting
    · exact .inr (told target present aiming)
    · exact .inr (waits target waiting)

theorem light {waiting : List Notice} {after : NodeId → Bool} {target : NodeId}
    (tells : ∀ other, ¬ gone other → after other = if other = target then true else shown other)
    (waits : ∀ other, ⟨other, .dockLeave⟩ ∈ undelivered → ⟨other, .dockLeave⟩ ∈ waiting)
    (told : ∀ other, aimed = some other → ⟨other, .dockLeave⟩ ∈ waiting) :
    Lit gone (some target) waiting after where
  shown_of_aimed other present same := by
    rw [tells other present, if_pos (Option.some.inj same).symm]
  aimed_or_told other present bright := by
    rw [tells other present] at bright
    split at bright
    · next same => exact .inl (congrArg some same.symm)
    · rcases lit.aimed_or_told other present bright with aiming | waiting
      · exact .inr (told other aiming)
      · exact .inr (waits other waiting)

theorem darken {after : NodeId → Bool} {target : NodeId}
    (tells : ∀ other, ¬ gone other →
      after other = if other = target then false else shown other) :
    Lit gone (if aimed = some target then none else aimed) undelivered after where
  shown_of_aimed other present aiming := by
    split at aiming
    · cases aiming
    · next elsewhere =>
        rw [tells other present, if_neg]
        · exact lit.shown_of_aimed other present aiming
        · rintro rfl
          exact elsewhere aiming
  aimed_or_told other present bright := by
    rw [tells other present] at bright
    split at bright
    · cases bright
    · next apart =>
        rcases lit.aimed_or_told other present bright with aiming | waiting
        · rw [if_neg]
          · exact .inl aiming
          · rw [aiming]
            exact fun same => apart (Option.some.inj same)
        · exact .inr waiting

/-- Notices to a target that shows nothing are not needed. -/
theorem discard {waiting : List Notice} {target : NodeId}
    (dark : ¬ gone target → shown target = false)
    (waits : ∀ other, other ≠ target → ⟨other, .dockLeave⟩ ∈ undelivered →
      ⟨other, .dockLeave⟩ ∈ waiting) : Lit gone aimed waiting shown where
  shown_of_aimed := lit.shown_of_aimed
  aimed_or_told other present bright := by
    refine (lit.aimed_or_told other present bright).imp_right (waits other ?_)
    rintro rfl
    rw [dark present] at bright
    cases bright

end Lit

variable {flight : Flight}

theorem activeTarget?_adjust (flight : Flight) (node other : NodeId)
    (change : Standing → Standing) :
    (flight.adjust node change).activeTarget? other =
      if other = node then
        (flight.standing? node).bind fun standing => (change standing).activeTarget
      else flight.activeTarget? other := by
  unfold activeTarget? adjust
  dsimp only
  split
  · rw [Option.bind_map]
    rfl
  · rfl

theorem aimed?_adjust_of_ne {node : NodeId} (apart : flight.inFlight ≠ some node)
    (change : Standing → Standing) : (flight.adjust node change).aimed? = flight.aimed? := by
  have kept : (flight.adjust node change).inFlight = flight.inFlight := rfl
  unfold aimed?
  rw [kept]
  cases flying : flight.inFlight with
  | none => rfl
  | some other =>
      rw [Option.bind_some, Option.bind_some, activeTarget?_adjust, if_neg]
      rintro rfl
      exact apart flying

theorem aimed?_strike {node : NodeId} (apart : flight.inFlight ≠ some node) :
    (flight.strike node).aimed? = flight.aimed? := by
  have kept : (flight.strike node).inFlight = flight.inFlight := rfl
  unfold aimed?
  rw [kept]
  cases flying : flight.inFlight with
  | none => rfl
  | some other =>
      have different : other ≠ node := fun same => apart (same ▸ flying)
      simp only [Option.bind_some, activeTarget?, strike, if_neg different]

theorem aimed?_hover {node target : NodeId} {standing : Standing}
    (flying : flight.inFlight = some node) (found : flight.standing? node = some standing) :
    (flight.make (.hover node target)).aimed? = some target := by
  have still : (flight.make (.hover node target)).inFlight = some node :=
    (flight.inFlight_bidFarewell node).trans flying
  rw [aimed?, still, Option.bind_some, make, activeTarget?_adjust, if_pos rfl,
    standing?_bidFarewell, found]
  rfl

theorem aimed?_leave (flight : Flight) (target : NodeId) :
    (flight.make (.leave target)).aimed? =
      if flight.aimed? = some target then none else flight.aimed? := by
  dsimp only [make]
  cases flying : flight.inFlight with
  | none => simp only [aimed?, flying, Option.bind_none, ite_self]
  | some node =>
      have aims : flight.aimed? = flight.activeTarget? node := by
        rw [aimed?, flying, Option.bind_some]
      rw [aims]
      dsimp only
      split
      · have still : (flight.adjust node fun standing =>
            (standing.aim none).enter .dragging).inFlight = some node := flying
        rw [aimed?, still, Option.bind_some, activeTarget?_adjust, if_pos rfl]
        cases flight.standing? node <;> rfl
      · exact aims

theorem aimed?_clearReferences (flight : Flight) (nodes : List NodeId) :
    (clearReferences nodes flight).aimed? =
      if Session.leadsInto nodes flight.aimed? then none else flight.aimed? := by
  have kept : (clearReferences nodes flight).inFlight = flight.inFlight := rfl
  unfold aimed?
  rw [kept]
  cases flight.inFlight with
  | none => rfl
  | some node =>
      have cleared (found : Option Standing) :
          (found.map (Standing.forget nodes)).bind Standing.activeTarget =
            if Session.leadsInto nodes (found.bind Standing.activeTarget) then none
            else found.bind Standing.activeTarget := by
        cases found <;> rfl
      exact cleared (flight.standing? node)

theorem outbox_subset_bidFarewell (flight : Flight) (node : NodeId) :
    flight.outbox ⊆ (flight.bidFarewell node).outbox := by
  unfold bidFarewell
  split
  · exact List.Subset.refl _
  · exact List.subset_append_left _ _

theorem dockLeave_mem_bidFarewell {node target : NodeId}
    (aiming : flight.activeTarget? node = some target) :
    ⟨target, .dockLeave⟩ ∈ (flight.bidFarewell node).outbox := by
  rw [bidFarewell, aiming]
  exact List.mem_append_right _ (List.mem_singleton_self _)

theorem mem_append_of_subset {smaller larger taken : List Notice} (subset : smaller ⊆ larger)
    (target : NodeId) (member : (⟨target, .dockLeave⟩ : Notice) ∈ smaller ++ taken) :
    (⟨target, .dockLeave⟩ : Notice) ∈ larger ++ taken :=
  (List.mem_append.mp member).elim (fun waiting => List.mem_append_left _ (subset waiting))
    (List.mem_append_right _)

namespace Lit

variable {gone : NodeId → Prop} {taken : List Notice} {shown : NodeId → Bool}
  (lit : Lit gone flight.aimed? (flight.outbox ++ taken) shown)
include lit

theorem settle {node : NodeId} (flying : flight.inFlight = some node) :
    Lit gone (flight.settle node).aimed? ((flight.settle node).outbox ++ taken) shown := by
  have landed : (flight.settle node).aimed? = none := by
    simp [Flight.settle, finish, Flight.adjust, aimed?, flying]
  rw [landed]
  refine lit.release (mem_append_of_subset (flight.outbox_subset_bidFarewell node)) ?_
  intro target _ aiming
  rw [aimed?, flying, Option.bind_some] at aiming
  exact List.mem_append_left _ (dockLeave_mem_bidFarewell aiming)

theorem make_of_isQuiet (single : flight.Single) {turn : Turn} (quiet : turn.isQuiet = true)
    (admitted : flight.Admits turn) :
    Lit gone (flight.make turn).aimed? ((flight.make turn).outbox ++ taken) shown := by
  have launched {node : NodeId} (origin : Option NodeId)
      (admitted : flight.Admits (.launch node origin)) :
      flight.aimed? = none ∧ (flight.make (.launch node origin)).aimed? = none := by
    obtain ⟨⟨standing, found, resting⟩, alone⟩ := admitted
    constructor
    · unfold aimed?
      cases flying : flight.inFlight with
      | none => rfl
      | some other =>
          have same := alone other flying
          subst same
          exact absurd flying (single.inFlight_ne found resting)
    · simp [aimed?, make, activeTarget?, Flight.adjust, found]
  cases turn with
  | stay => exact lit
  | launch node origin =>
      obtain ⟨before, after⟩ := launched origin admitted
      rw [before] at lit
      rw [after]
      exact lit
  | pull node container =>
      obtain ⟨before, after⟩ := launched (some container) admitted
      rw [before] at lit
      have same : (flight.make (.pull node container)).aimed? = none := after
      rw [same]
      exact lit.mono (fun _ => id) (mem_append_of_subset (List.subset_append_left _ _))
  | ground node =>
      obtain ⟨standing, found, resting⟩ := admitted
      have same := aimed?_adjust_of_ne (single.inFlight_ne found resting)
        (Standing.enter .undocked)
      rw [Flight.make, same]
      exact lit
  | passRelease target root =>
      exact lit.mono (fun _ => id) (mem_append_of_subset (List.subset_append_left _ _))
  | settle node => exact lit.settle ((single.inFlight_iff node).mpr admitted)
  | takeNotices => cases quiet
  | register node phase => cases quiet
  | hover node target => cases quiet
  | leave target => cases quiet
  | turnAway node target => cases quiet
  | land node target => cases quiet

theorem register (single : flight.Single) {node : NodeId} {phase : Phase}
    (admitted : flight.Admits (.register node phase)) :
    Lit gone (flight.make (.register node phase)).aimed?
      ((flight.make (.register node phase)).outbox ++ taken) shown := by
  have same : (flight.make (.register node phase)).aimed? = flight.aimed? := by
    unfold aimed?
    dsimp only [make]
    cases flying : flight.inFlight with
    | none => rfl
    | some other =>
        have apart : other ≠ node := by
          rintro rfl
          obtain ⟨standing, found⟩ := single.registered flying
          rw [admitted.1] at found
          cases found
        simp only [Option.bind_some, activeTarget?, if_neg apart]
  rw [same]
  exact lit

theorem make_of_feedback? {turn : Turn} {target : NodeId} {value : Bool}
    (told : turn.feedback? = some (target, value)) (admitted : flight.Admits turn)
    {after : NodeId → Bool}
    (tells : ∀ other, ¬ gone other → after other = if other = target then value else shown other) :
    Lit gone (flight.make turn).aimed? ((flight.make turn).outbox ++ taken) after := by
  have darkens {later : Flight} (outbox_eq : later.outbox = flight.outbox)
      (aimed_eq : later.aimed? = if flight.aimed? = some target then none else flight.aimed?)
      (dark : value = false) :
      Lit gone later.aimed? (later.outbox ++ taken) after := by
    subst dark
    rw [aimed_eq, outbox_eq]
    exact lit.darken tells
  cases turn with
  | hover node other =>
      cases told
      obtain ⟨flying, _, standing, found⟩ := admitted
      rw [aimed?_hover flying found]
      refine lit.light tells (mem_append_of_subset (flight.outbox_subset_bidFarewell node)) ?_
      intro previous aiming
      rw [aimed?, flying, Option.bind_some] at aiming
      exact List.mem_append_left _ (dockLeave_mem_bidFarewell aiming)
  | leave other =>
      cases told
      refine darkens ?_ ?_ rfl
      · dsimp only [make]
        split
        · rfl
        · split <;> rfl
      · exact flight.aimed?_leave target
  | turnAway node other =>
      cases told
      obtain ⟨flying, aiming⟩ := admitted
      refine darkens rfl ?_ rfl
      simp [aimed?, make, Flight.turnAway, finish, Flight.adjust, flying, aiming]
  | land node other =>
      cases told
      obtain ⟨flying, aiming⟩ := admitted
      refine darkens rfl ?_ rfl
      simp [aimed?, make, flying, aiming]
  | stay => cases told
  | takeNotices => cases told
  | register node phase => cases told
  | launch node origin => cases told
  | pull node container => cases told
  | ground node => cases told
  | passRelease other root => cases told
  | settle node => cases told

theorem dismiss {nodes : List NodeId} (lost : ∀ node ∈ nodes, gone node) (node : NodeId) :
    Lit gone (Flight.dismiss nodes flight node).aimed?
      ((Flight.dismiss nodes flight node).outbox ++ taken) shown := by
  unfold Flight.dismiss
  split
  · exact lit
  · next standing found =>
      dsimp only
      split
      · next flying =>
          have aims : flight.aimed? = standing.activeTarget := by
            rw [aimed?, flying, Option.bind_some, activeTarget?, found, Option.bind_some]
          rw [aims] at lit
          split
          · next aimless =>
              rw [aimless] at lit
              exact lit
          · next target aiming =>
              rw [aiming] at lit
              split
              · next among =>
                  refine lit.release (fun _ => id) fun other present same => ?_
                  cases same
                  exact absurd (lost target (by simpa using among)) present
              · refine lit.release (mem_append_of_subset (List.subset_append_left _ _)) ?_
                intro other _ same
                cases same
                exact List.mem_append_left _
                  (List.mem_append_right _ (List.mem_singleton_self _))
      · next apart =>
          rw [aimed?_strike apart]
          exact lit

theorem clearReferences {nodes : List NodeId} (lost : ∀ node ∈ nodes, gone node) :
    Lit gone (Flight.clearReferences nodes flight).aimed?
      ((Flight.clearReferences nodes flight).outbox ++ taken) shown := by
  rw [aimed?_clearReferences]
  constructor
  · intro target present aiming
    split at aiming
    · cases aiming
    · exact lit.shown_of_aimed target present aiming
  · intro target present bright
    refine (lit.aimed_or_told target present bright).imp_left fun aiming => ?_
    rw [if_neg]
    · exact aiming
    · rw [aiming]
      exact fun among => present (lost target (by simpa [Session.leadsInto] using among))

omit lit in
private theorem foldl_dismiss {nodes : List NodeId} (lost : ∀ node ∈ nodes, gone node)
    (rest : List NodeId) (lit : Lit gone flight.aimed? (flight.outbox ++ taken) shown) :
    Lit gone (rest.foldl (Flight.dismiss nodes) flight).aimed?
      ((rest.foldl (Flight.dismiss nodes) flight).outbox ++ taken) shown := by
  induction rest generalizing flight with
  | nil => exact lit
  | cons node rest induction => exact induction (lit.dismiss lost node)

theorem forget {nodes : List NodeId} (lost : ∀ node ∈ nodes, gone node) :
    Lit gone (flight.forget nodes).aimed? ((flight.forget nodes).outbox ++ taken) shown :=
  (foldl_dismiss lost nodes lit).clearReferences lost

end Lit
end Flight
end Docking

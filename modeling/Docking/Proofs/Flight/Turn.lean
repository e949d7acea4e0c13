import Docking.Session.Registry

namespace Docking

/-! Docking seen apart from the tree and the windowing system: where each dockable stands,
which one is in flight, and what waits for delivery. A turn is the most that one event or
call does to it, destructions apart. -/

structure Standing where
  phase : Phase
  activeTarget : Option NodeId
  originTarget : Option NodeId
deriving DecidableEq

def Dockable.standing (dockable : Dockable) : Standing :=
  ⟨dockable.phase, dockable.activeTarget, dockable.originTarget⟩

namespace Standing

def atRest (phase : Phase) : Standing := ⟨phase, none, none⟩

def isInFlight (standing : Standing) : Bool := standing.phase.isInFlight

def enter (phase : Phase) (standing : Standing) : Standing := { standing with phase }

def aim (target : Option NodeId) (standing : Standing) : Standing :=
  { standing with activeTarget := target }

def forget (gone : List NodeId) (standing : Standing) : Standing where
  phase :=
    if Session.leadsInto gone standing.activeTarget && standing.phase = .hovering then
      .dragging
    else standing.phase
  activeTarget :=
    if Session.leadsInto gone standing.activeTarget then none else standing.activeTarget
  originTarget :=
    if Session.leadsInto gone standing.originTarget then none else standing.originTarget

/-- Hovering means having an active target, and only a flight remembers its origin. -/
structure Sound (standing : Standing) : Prop where
  hovering_iff : standing.phase = .hovering ↔ standing.activeTarget.isSome = true
  inFlight_of_origin : standing.originTarget.isSome = true → standing.isInFlight = true

theorem forget_nil (standing : Standing) : standing.forget [] = standing := by
  have nowhere (reference : Option NodeId) : Session.leadsInto [] reference = false := by
    cases reference <;> rfl
  simp [forget, nowhere]

theorem isInFlight_forget (gone : List NodeId) (standing : Standing) :
    (standing.forget gone).isInFlight = standing.isInFlight := by
  unfold isInFlight forget
  dsimp only
  split
  · next both =>
      rw [Bool.and_eq_true, decide_eq_true_eq] at both
      rw [both.2]
      rfl
  · rfl

theorem Sound.atRest {phase : Phase} (resting : phase.isInFlight = false) :
    (atRest phase).Sound := by
  cases phase with
  | undocked => exact ⟨by decide, fun origin => nomatch origin⟩
  | docked => exact ⟨by decide, fun origin => nomatch origin⟩
  | dragging => cases resting
  | hovering => cases resting

theorem Sound.activeTarget_eq_none {standing : Standing} (sound : standing.Sound)
    (apart : standing.phase ≠ .hovering) : standing.activeTarget = none := by
  cases active : standing.activeTarget with
  | none => rfl
  | some target =>
      refine absurd (sound.hovering_iff.mpr ?_) apart
      rw [active, Option.isSome_some]

theorem Sound.originTarget_eq_none {standing : Standing} (sound : standing.Sound)
    (resting : standing.isInFlight = false) : standing.originTarget = none := by
  cases origin : standing.originTarget with
  | none => rfl
  | some target =>
      have flying := sound.inFlight_of_origin (by rw [origin, Option.isSome_some])
      rw [resting] at flying
      cases flying

theorem Sound.forget {standing : Standing} (sound : standing.Sound) (gone : List NodeId) :
    (standing.forget gone).Sound where
  hovering_iff := by
    unfold Standing.forget
    dsimp only
    cases lost : Session.leadsInto gone standing.activeTarget with
    | false => simpa using sound.hovering_iff
    | true =>
        by_cases hovering : standing.phase = .hovering
        · simp [hovering]
        · simp [hovering]
  inFlight_of_origin origin := by
    rw [isInFlight_forget]
    apply sound.inFlight_of_origin
    unfold Standing.forget at origin
    dsimp only at origin
    split at origin
    · cases origin
    · exact origin

end Standing

structure Flight where
  standing? : NodeId → Option Standing
  inFlight : Option NodeId
  outbox : List Notice

namespace Flight

def activeTarget? (flight : Flight) (node : NodeId) : Option NodeId :=
  (flight.standing? node).bind Standing.activeTarget

def adjust (flight : Flight) (node : NodeId) (change : Standing → Standing) : Flight :=
  { flight with
    standing? := fun other =>
      if other = node then (flight.standing? node).map change else flight.standing? other }

def post (flight : Flight) (target : NodeId) (event : Event) : Flight :=
  { flight with outbox := flight.outbox ++ [⟨target, event⟩] }

/-- Tells the active target of a dockable, if there is one, that the dockable left. -/
def bidFarewell (flight : Flight) (node : NodeId) : Flight :=
  match flight.activeTarget? node with
  | none => flight
  | some target => flight.post target .dockLeave

def finish (flight : Flight) (node : NodeId) : Flight :=
  { flight with inFlight := if flight.inFlight = some node then none else flight.inFlight }

/-- Comes to rest undocked; a target that is left behind is told later. -/
def settle (flight : Flight) (node : NodeId) : Flight :=
  ((flight.bidFarewell node).adjust node fun _ => .atRest .undocked).finish node

/-- Comes to rest undocked after the target has been told already. -/
def turnAway (flight : Flight) (node : NodeId) : Flight :=
  (flight.adjust node fun _ => .atRest .undocked).finish node

def strike (flight : Flight) (node : NodeId) : Flight :=
  { flight with
    standing? := fun other => if other = node then none else flight.standing? other }

/-- The end of a destroyed dockable; a target that lives on is told later. -/
def dismiss (gone : List NodeId) (flight : Flight) (node : NodeId) : Flight :=
  match flight.standing? node with
  | none => flight
  | some standing =>
      if flight.inFlight = some node then
        let landed := { flight.strike node with inFlight := none }
        match standing.activeTarget with
        | none => landed
        | some target =>
            if gone.contains target then landed else landed.post target .dockLeave
      else flight.strike node

def clearReferences (gone : List NodeId) (flight : Flight) : Flight :=
  { flight with standing? := fun node => (flight.standing? node).map (Standing.forget gone) }

/-- Catches up with the destruction of some nodes. -/
def forget (flight : Flight) (gone : List NodeId) : Flight :=
  clearReferences gone (gone.foldl (dismiss gone) flight)

/-- What one event or call does, destructions apart. -/
inductive Turn
  | stay
  | takeNotices
  | register (node : NodeId) (phase : Phase)
  | launch (node : NodeId) (origin : Option NodeId)
  /-- A launch by a strong drag, of which the container is told later. -/
  | pull (node container : NodeId)
  /-- A tear-out failed and left the dockable undocked. -/
  | ground (node : NodeId)
  | hover (node target : NodeId)
  /-- The dockable in flight, if it is over the target, is over none from now on. -/
  | leave (target : NodeId)
  | passRelease (target : NodeId) (root : Point)
  | settle (node : NodeId)
  | turnAway (node target : NodeId)
  | land (node target : NodeId)

def Turn.feedback? : Turn → Option (NodeId × Bool)
  | .hover _ target => some (target, true)
  | .leave target | .turnAway _ target | .land _ target => some (target, false)
  | _ => none

/-- Whether a turn tells no target, brings no new dockable and takes no notices. -/
def Turn.isQuiet : Turn → Bool
  | .takeNotices | .register .. | .hover .. | .leave _ | .turnAway .. | .land .. => false
  | _ => true

def Turn.strands : Turn → Bool
  | .ground _ => true
  | _ => false

theorem Turn.feedback?_of_isQuiet {turn : Turn} (quiet : turn.isQuiet = true) :
    turn.feedback? = none := by
  cases turn <;> first | rfl | cases quiet

def make (flight : Flight) : Turn → Flight
  | .stay => flight
  | .takeNotices => { flight with outbox := [] }
  | .register node phase =>
      { flight with
        standing? := fun other =>
          if other = node then some (.atRest phase) else flight.standing? other }
  | .launch node origin =>
      { flight.adjust node fun _ => ⟨.dragging, none, origin⟩ with inFlight := some node }
  | .pull node container =>
      { flight.adjust node fun _ => ⟨.dragging, none, some container⟩ with
        inFlight := some node }.post container (.undock node)
  | .ground node => flight.adjust node (Standing.enter .undocked)
  | .hover node target =>
      (flight.bidFarewell node).adjust node fun standing =>
        (standing.aim (some target)).enter .hovering
  | .leave target =>
      match flight.inFlight with
      | none => flight
      | some node =>
          if flight.activeTarget? node = some target then
            flight.adjust node fun standing => (standing.aim none).enter .dragging
          else flight
  | .passRelease target root => flight.post target (.dockRelease root)
  | .settle node => flight.settle node
  | .turnAway node _ => flight.turnAway node
  | .land node _ =>
      { flight.adjust node fun _ => .atRest .docked with inFlight := none }

def Admits (flight : Flight) : Turn → Prop
  | .stay | .takeNotices | .leave _ | .passRelease .. => True
  | .register node phase => flight.standing? node = none ∧ phase.isInFlight = false
  | .launch node _ | .pull node _ =>
      (∃ standing, flight.standing? node = some standing ∧ standing.isInFlight = false) ∧
        ∀ other, flight.inFlight = some other → other = node
  | .ground node =>
      ∃ standing, flight.standing? node = some standing ∧ standing.isInFlight = false
  | .hover node target =>
      flight.inFlight = some node ∧ flight.activeTarget? node ≠ some target ∧
        ∃ standing, flight.standing? node = some standing
  | .settle node =>
      ∃ standing, flight.standing? node = some standing ∧ standing.isInFlight = true
  | .turnAway node target | .land node target =>
      flight.inFlight = some node ∧ flight.activeTarget? node = some target

theorem adjust_adjust (flight : Flight) (node : NodeId)
    (first second : Standing → Standing) :
    (flight.adjust node first).adjust node second =
      flight.adjust node fun standing => second (first standing) := by
  simp only [adjust, mk.injEq, and_self, and_true]
  funext other
  split
  · rw [if_true, Option.map_map]
    rfl
  · rfl

@[simp] theorem standing?_post (flight : Flight) (target : NodeId) (event : Event) :
    (flight.post target event).standing? = flight.standing? :=
  rfl

@[simp] theorem inFlight_post (flight : Flight) (target : NodeId) (event : Event) :
    (flight.post target event).inFlight = flight.inFlight :=
  rfl

@[simp] theorem standing?_bidFarewell (flight : Flight) (node : NodeId) :
    (flight.bidFarewell node).standing? = flight.standing? := by
  unfold bidFarewell
  split <;> rfl

@[simp] theorem inFlight_bidFarewell (flight : Flight) (node : NodeId) :
    (flight.bidFarewell node).inFlight = flight.inFlight := by
  unfold bidFarewell
  split <;> rfl

theorem registered_of_make {flight : Flight} {turn : Turn} {node : NodeId}
    {standing : Standing} (found : (flight.make turn).standing? node = some standing) :
    (∃ earlier, flight.standing? node = some earlier) ∨ ∃ phase, turn = .register node phase := by
  have adjusted {flight : Flight} {other : NodeId} {change : Standing → Standing}
      (found : (flight.adjust other change).standing? node = some standing) :
      ∃ earlier, flight.standing? node = some earlier := by
    dsimp only [adjust] at found
    split at found
    · next same =>
        subst same
        obtain ⟨earlier, before, _⟩ := Option.map_eq_some_iff.mp found
        exact ⟨earlier, before⟩
    · exact ⟨standing, found⟩
  have left {flight : Flight} {other : NodeId} {change : Standing → Standing}
      (found : ((flight.bidFarewell other).adjust other change).standing? node =
        some standing) : ∃ earlier, flight.standing? node = some earlier := by
    rw [← flight.standing?_bidFarewell other]
    exact adjusted found
  cases turn with
  | stay => exact .inl ⟨standing, found⟩
  | takeNotices => exact .inl ⟨standing, found⟩
  | register other phase =>
      dsimp only [make] at found
      split at found
      · next same => exact .inr ⟨phase, by rw [same]⟩
      · exact .inl ⟨standing, found⟩
  | launch other origin => exact .inl (adjusted found)
  | pull other container => exact .inl (adjusted found)
  | ground other => exact .inl (adjusted found)
  | hover other target => exact .inl (left found)
  | leave target =>
      dsimp only [make] at found
      split at found
      · exact .inl ⟨standing, found⟩
      · split at found
        · exact .inl (adjusted found)
        · exact .inl ⟨standing, found⟩
  | passRelease target root => exact .inl ⟨standing, found⟩
  | settle other => exact .inl (left found)
  | turnAway other target => exact .inl (adjusted found)
  | land other target => exact .inl (adjusted found)

theorem standing?_dismiss (gone : List NodeId) (flight : Flight) (node other : NodeId) :
    (dismiss gone flight node).standing? other =
      if other = node then none else flight.standing? other := by
  unfold dismiss
  split
  · next unknown =>
      split
      · next same => rw [same, unknown]
      · rfl
  · dsimp only
    split
    · split
      · rfl
      · split <;> rfl
    · rfl

theorem standing?_foldl_dismiss (gone nodes : List NodeId) (flight : Flight) (node : NodeId) :
    (nodes.foldl (dismiss gone) flight).standing? node =
      if node ∈ nodes then none else flight.standing? node := by
  induction nodes generalizing flight with
  | nil => rfl
  | cons head rest induction =>
      rw [List.foldl_cons, induction, standing?_dismiss]
      by_cases same : node = head
      · simp [same]
      · simp [same]

theorem standing?_forget (flight : Flight) (gone : List NodeId) (node : NodeId) :
    (flight.forget gone).standing? node =
      if node ∈ gone then none else (flight.standing? node).map (Standing.forget gone) := by
  dsimp only [forget, clearReferences]
  rw [standing?_foldl_dismiss]
  split <;> rfl

theorem registered_of_forget {flight : Flight} {gone : List NodeId} {node : NodeId}
    {standing : Standing} (found : (flight.forget gone).standing? node = some standing) :
    ∃ earlier, flight.standing? node = some earlier := by
  rw [standing?_forget] at found
  split at found
  · cases found
  · obtain ⟨earlier, before, _⟩ := Option.map_eq_some_iff.mp found
    exact ⟨earlier, before⟩

theorem forget_nil (flight : Flight) : flight.forget [] = flight := by
  have unchanged : Option.map (Standing.forget []) = id := by
    rw [funext Standing.forget_nil]
    exact Option.map_id
  simp only [forget, clearReferences, List.foldl_nil, unchanged, id]

end Flight
end Docking

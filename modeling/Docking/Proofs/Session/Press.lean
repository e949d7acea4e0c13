import Docking.Proofs.Session.Career
import Docking.Proofs.Window.StrongDrag
import Mathlib.Data.List.Induction

namespace Docking

/-! A press lives from the pointer going down on a dockable to the end of the gesture, and no
event begins a flight without one. -/

namespace Press

/-- The lengths of the steps along a path that starts at `root`. -/
def strides (root : Point) : List Point → List Float32
  | [] => []
  | next :: rest => (next - root).length :: strides next rest

/-- A press that has come along a path, with the strides added up in their order. -/
def along (root : Point) (path : List Point) : Press :=
  ⟨root, path.getLastD root, (strides root path).foldl (· + ·) 0⟩

theorem strides_concat (root : Point) (path : List Point) (next : Point) :
    strides root (path ++ [next]) = strides root path ++ [(next - path.getLastD root).length] := by
  induction path generalizing root with
  | nil => rfl
  | cons first rest induction =>
      rw [List.cons_append, strides, strides, induction, List.getLastD_cons, List.cons_append]

theorem along_concat (root : Point) (path : List Point) (next : Point) :
    along root (path ++ [next]) = (along root path).moveTo next := by
  simp [along, moveTo, strides_concat]

end Press

namespace Session

def Operation.movesTo? (node : NodeId) : Operation → Option Point
  | .payloadEvent other (.pointerMove root) => if other = node then some root else none
  | _ => none

def Operation.presses (node : NodeId) : Operation → Bool
  | .payloadEvent other (.pointerDown .primary _) => other = node
  | _ => false

def Operation.clicks (node : NodeId) : Operation → Bool
  | .payloadEvent other (.pointerDown .primary _) => other = node
  | .payloadEvent other (.pointerUp .primary _) => other = node
  | _ => false

def Operation.isEvent : Operation → Bool
  | .payloadEvent .. => true
  | .targetEvent .. => true
  | _ => false

def Strikes (session : Session) (dockable : Dockable) (root : Point) : Prop :=
  ∀ handle, dockable.handle = some handle →
    ∃ rect, session.screenRect? handle = some rect ∧ rect.contains root = true

def ComesToRest (session : Session) (node : NodeId) (operation : Operation) : Prop :=
  ∃ later, (session.perform operation).dockable? node = some later ∧ later.isInFlight = false ∧
    ∀ earlier, session.dockable? node = some earlier → earlier.phase ≠ later.phase

/-- The operation takes the dockable from rest into flight. -/
structure LiftsOff (session : Session) (node : NodeId) (operation : Operation)
    (earlier later : Dockable) : Prop where
  known : session.dockable? node = some earlier
  resting : earlier.isInFlight = false
  found : (session.perform operation).dockable? node = some later
  flying : later.isInFlight = true

variable {session initial : Session} {node : NodeId} {operation : Operation}
  {earlier later : Dockable} {root : Point} {late operations : List Operation}

theorem strikes_of_hits (hits : session.misses earlier (.pointerDown .primary root) = false) :
    session.Strikes earlier root := by
  intro handle handled
  simp only [misses, missesHandle, handled, Bool.not_eq_false'] at hits
  cases shown : session.screenRect? handle with
  | none => simp [Scene.hits, shown] at hits
  | some rect =>
      simp only [Scene.hits, shown] at hits
      exact ⟨rect, rfl, hits⟩

inductive Traces (session : Session) (node : NodeId) (earlier : Dockable) :
    Operation → Press → Prop
  | struck {root : Point} (strikes : session.Strikes earlier root) :
      Traces session node earlier (.payloadEvent node (.pointerDown .primary root))
        (.startingAt root)
  | moved {root : Point} {press : Press} (pressed : earlier.press = some press) :
      Traces session node earlier (.payloadEvent node (.pointerMove root)) (press.moveTo root)
  | kept {operation : Operation} {press : Press} (unclicked : operation.clicks node = false)
      (unmoved : operation.movesTo? node = none) (pressed : earlier.press = some press) :
      Traces session node earlier operation press

theorem traces_of_apart {press : Press} (apart : ∀ event, operation ≠ .payloadEvent node event)
    (pressed : earlier.press = some press) : session.Traces node earlier operation press := by
  refine .kept ?_ ?_ pressed
  · unfold Operation.clicks
    split
    · exact decide_eq_false fun same => apart _ (congrArg (Operation.payloadEvent · _) same)
    · exact decide_eq_false fun same => apart _ (congrArg (Operation.payloadEvent · _) same)
    · rfl
  · unfold Operation.movesTo?
    split
    · exact if_neg fun same => apart _ (congrArg (Operation.payloadEvent · _) same)
    · rfl

theorem traces_of_pressAfter {press : Press}
    (tracked : session.pressAfter node earlier operation = some press) :
    session.Traces node earlier operation press := by
  by_cases apart : ∀ event, operation ≠ .payloadEvent node event
  · rw [pressAfter_of_apart apart] at tracked
    exact traces_of_apart apart tracked
  · push Not at apart
    obtain ⟨event, rfl⟩ := apart
    cases hits : session.misses earlier event with
    | true => simp [pressAfter, hits] at tracked
    | false =>
        rw [pressAfter_of_hits hits] at tracked
        unfold Press.track at tracked
        split at tracked
        · cases tracked
          exact .struck (strikes_of_hits hits)
        · split at tracked
          · next pressed =>
              cases tracked
              exact .moved pressed
          · cases tracked
        · cases tracked
        · next down move up =>
            refine .kept ?_ ?_ tracked
            · unfold Operation.clicks
              split
              · next same => exact absurd (Operation.payloadEvent.inj same).2 (down _)
              · next same => exact absurd (Operation.payloadEvent.inj same).2 (up _)
              · rfl
            · unfold Operation.movesTo?
              split
              · next same => exact absurd (Operation.payloadEvent.inj same).2 (move _)
              · rfl

theorem Career.traces (career : session.Career node operation later) {press : Press}
    (pressed : later.press = some press) :
    ∃ earlier, session.dockable? node = some earlier ∧
      session.Traces node earlier operation press ∧
      (later.isInFlight = true ∨ later.phase = earlier.phase) := by
  cases career with
  | dormant dormant => exact nomatch dormant.press.symm.trans pressed
  | @eased earlier known eases =>
      rcases eases.press with none | ⟨same, flies⟩
      · exact nomatch none.symm.trans pressed
      · exact ⟨earlier, known, traces_of_pressAfter (same.symm.trans pressed), flies⟩
  | @lifted earlier known lifted =>
      exact ⟨earlier, known, traces_of_pressAfter (lifted.press.symm.trans pressed),
        .inl lifted.flying⟩

/-- The dockable is left with a press by the operation, and was not put to rest by it. -/
structure KeepsPress (session : Session) (node : NodeId) (operation : Operation) : Prop where
  pressed : ∃ later, (session.perform operation).dockable? node = some later ∧
    later.press.isSome = true
  unrested : ¬ session.ComesToRest node operation

theorem keepsPress_of_lasts {press : Press} (known : session.dockable? node = some earlier)
    (found : (session.perform operation).dockable? node = some later)
    (pressed : later.press = some press)
    (lasts : later.isInFlight = true ∨ later.phase = earlier.phase) :
    session.KeepsPress node operation where
  pressed := ⟨later, found, Option.isSome_of_eq_some pressed⟩
  unrested := by
    rintro ⟨same, foundSame, rests, anew⟩
    cases found.symm.trans foundSame
    rcases lasts with flies | phase
    · exact nomatch rests.symm.trans flies
    · exact anew earlier known phase.symm

/-- The press of a dockable, and what came after it up to now. -/
structure HeldSince (session : Session) (node : NodeId) (root : Point) (late : List Operation) :
    Prop where
  struck : ∃ dockable, session.dockable? node = some dockable ∧ session.Strikes dockable root
  unclicked : ∀ operation ∈ late, operation.clicks node = false
  kept : ∀ first operation,
    first ++ [operation] <+: .payloadEvent node (.pointerDown .primary root) :: late →
      (session.run first).KeepsPress node operation

theorem heldSince_nil (known : session.dockable? node = some earlier)
    (strikes : session.Strikes earlier root)
    (kept : session.KeepsPress node (.payloadEvent node (.pointerDown .primary root))) :
    session.HeldSince node root [] where
  struck := ⟨earlier, known, strikes⟩
  unclicked := List.forall_mem_nil _
  kept first operation cut := by
    have within : first ++ [operation] <+: [] ++ [_] := cut
    rcases List.prefix_concat_iff.mp within with same | old
    · obtain ⟨rfl, rfl⟩ := List.append_singleton_inj.mp same
      exact kept
    · simp at old

theorem HeldSince.concat (held : session.HeldSince node root late)
    (unclicked : operation.clicks node = false)
    (kept : (session.run (.payloadEvent node (.pointerDown .primary root) :: late)).KeepsPress node
      operation) :
    session.HeldSince node root (late ++ [operation]) where
  struck := held.struck
  unclicked other member := by
    rcases List.mem_append.mp member with old | new
    · exact held.unclicked other old
    · cases List.mem_singleton.mp new
      exact unclicked
  kept first other cut := by
    rw [← List.cons_append, List.prefix_concat_iff] at cut
    rcases cut with same | old
    · obtain ⟨rfl, rfl⟩ := List.append_singleton_inj.mp same
      exact kept
    · exact held.kept first other old

/-- The press was made in the course of the operations and has been held since. -/
def Holds (initial : Session) (operations : List Operation) (node : NodeId) (press : Press) : Prop :=
  ∃ early root late,
    operations = early ++ .payloadEvent node (.pointerDown .primary root) :: late ∧
    (initial.run early).HeldSince node root late ∧
    press = .along root (late.filterMap (Operation.movesTo? node))

theorem holds_concat {press : Press} (orderly : (initial.run operations).Orderly)
    (holds : ∀ dockable press, (initial.run operations).dockable? node = some dockable →
      dockable.press = some press → initial.Holds operations node press)
    (found : ((initial.run operations).perform operation).dockable? node = some later)
    (pressed : later.press = some press) :
    initial.Holds (operations ++ [operation]) node press := by
  obtain ⟨earlier, known, traces, lasts⟩ := (career_perform orderly found).traces pressed
  have kept := keepsPress_of_lasts known found pressed lasts
  cases traces with
  | struck strikes => exact ⟨operations, _, [], rfl, heldSince_nil known strikes kept, rfl⟩
  | @moved next former wasPressed =>
      obtain ⟨early, root, late, rfl, held, rfl⟩ := holds earlier former known wasPressed
      rw [run_append] at kept
      refine ⟨early, root, late ++ [_], by simp, held.concat rfl kept, ?_⟩
      simp [Operation.movesTo?, Press.along_concat]
  | kept unclicked unmoved wasPressed =>
      obtain ⟨early, root, late, rfl, held, rfl⟩ := holds earlier press known wasPressed
      rw [run_append] at kept
      refine ⟨early, root, late ++ [_], by simp, held.concat unclicked kept, ?_⟩
      simp [unmoved]

/-- How an event takes a dockable into flight after the pointer has travelled so far on it. -/
inductive Drags (session : Session) (node : NodeId) (earlier : Dockable) (travelled : Float32) :
    Operation → Prop
  | free {root : Point} (undocked : earlier.phase = .undocked)
      (past : session.settings.dragThreshold < travelled) :
      Drags session node earlier travelled (.payloadEvent node (.pointerMove root))
  | housed {target : NodeId} {root : Point} {hooks : Hooks} (docked : earlier.phase = .docked)
      (linked : session.tree.parent? node = some target) (grounded : session.inFlight = none)
      (past : session.settings.tearOutThreshold < travelled) :
      Drags session node earlier travelled (.targetEvent target (.pointerMove root) hooks)

section LiftsOff

variable (liftsOff : session.LiftsOff node operation earlier later) (orderly : session.Orderly)
include liftsOff orderly

theorem LiftsOff.lifted : session.Lifted node operation earlier later := by
  obtain ⟨same, known, ⟨flew, _⟩ | lifted⟩ :=
    (career_perform orderly liftsOff.found).flew_or_lifted liftsOff.flying
  · cases liftsOff.known.symm.trans known
    exact nomatch liftsOff.resting.symm.trans flew
  · cases liftsOff.known.symm.trans known
    exact lifted

theorem LiftsOff.drags (event : operation.isEvent = true) :
    ∃ press, later.press = some press ∧
      session.Drags node earlier press.travelled operation := by
  have lifted := liftsOff.lifted orderly
  obtain ⟨root, rect, lift, _⟩ := lifted.lift
  cases lift with
  | pulled pulls =>
      cases pulls with
      | tearOut => cases event
      | strongDrag grounded armed =>
          obtain ⟨dockable, found, docked, linked⟩ := docked_of_armedChild? _ armed
          have past := exceeds_of_armedChild? _ armed found
          cases liftsOff.known.symm.trans found
          obtain ⟨press, pressed, past⟩ := Dockable.press_of_pressExceeds past
          exact ⟨press, lifted.press.trans pressed,
            .housed docked linked grounded (of_decide_eq_true past)⟩
  | @dragged dockable press found undocked pressed armed =>
      cases liftsOff.known.symm.trans found
      refine ⟨press.moveTo root, ?_, .free undocked (of_decide_eq_true armed)⟩
      rw [lifted.press, pressAfter_of_hits rfl, pressed]
      rfl

end LiftsOff

/-- Presses are what the events of the run have made of them, and no event takes a dockable into
flight without one. -/
structure TracksPresses (initial : Session) (operations : List Operation) : Prop where
  holds : ∀ node dockable press, (initial.run operations).dockable? node = some dockable →
    dockable.press = some press → initial.Holds operations node press
  drags : ∀ node operation earlier later, operation.isEvent = true →
    (initial.run operations).LiftsOff node operation earlier later →
    ∃ press, initial.Holds (operations ++ [operation]) node press ∧
      (initial.run operations).Drags node earlier press.travelled operation

theorem holds_run (desktop : Desktop) (settings : Settings) (operations : List Operation)
    (node : NodeId) : ∀ dockable press,
      ((start desktop settings).run operations).dockable? node = some dockable →
      dockable.press = some press → (start desktop settings).Holds operations node press := by
  induction operations using List.reverseRecOn with
  | nil => exact fun _ _ found => nomatch found
  | append_singleton operations operation induction =>
      intro dockable press found pressed
      rw [run_append] at found
      exact holds_concat (orderly_run desktop settings operations) induction found pressed

theorem tracksPresses_run (desktop : Desktop) (settings : Settings)
    (operations : List Operation) : (start desktop settings).TracksPresses operations where
  holds node := holds_run desktop settings operations node
  drags node operation earlier later event liftsOff := by
    have orderly := orderly_run desktop settings operations
    obtain ⟨press, pressed, drags⟩ := liftsOff.drags orderly event
    exact ⟨press, holds_concat orderly (holds_run desktop settings operations node) liftsOff.found
      pressed, drags⟩

def Unpressed (session : Session) (node : NodeId) : Prop :=
  ∀ dockable, session.dockable? node = some dockable → dockable.press = none

namespace Unpressed

theorem perform (unpressed : session.Unpressed node) (orderly : session.Orderly)
    (calm : operation.presses node = false) : (session.perform operation).Unpressed node := by
  intro later found
  cases pressed : later.press with
  | none => rfl
  | some press =>
      obtain ⟨earlier, known, traces, _⟩ := (career_perform orderly found).traces pressed
      cases traces with
      | struck strikes => simp [Operation.presses] at calm
      | moved wasPressed => exact nomatch (unpressed earlier known).symm.trans wasPressed
      | kept _ _ wasPressed => exact nomatch (unpressed earlier known).symm.trans wasPressed

theorem run (unpressed : session.Unpressed node) (orderly : session.Orderly)
    (calm : ∀ operation ∈ operations, operation.presses node = false) :
    (session.run operations).Orderly ∧ (session.run operations).Unpressed node := by
  induction operations generalizing session with
  | nil => exact ⟨orderly, unpressed⟩
  | cons operation rest induction =>
      obtain ⟨first, rest⟩ := List.forall_mem_cons.mp calm
      exact induction (unpressed.perform orderly first) (orderly.perform operation) rest

theorem not_liftsOff (unpressed : session.Unpressed node) (orderly : session.Orderly)
    (event : operation.isEvent = true) : ¬ session.LiftsOff node operation earlier later := by
  intro liftsOff
  obtain ⟨press, pressed, drags⟩ := liftsOff.drags orderly event
  have calm : operation.presses node = false := by cases drags <;> rfl
  exact nomatch (unpressed.perform orderly calm later liftsOff.found).symm.trans pressed

end Unpressed

theorem perform_grabLost_of_resting (found : session.dockable? node = some earlier)
    (resting : earlier.isInFlight = false) :
    session.perform (.payloadEvent node .grabLost) = session := by
  have uninterrupted : session.interruption? node earlier .grabLost = none := by
    simp [interruption?, resting]
  have untracked : session.tracked node earlier .grabLost = session :=
    update_of_fixed fun dockable same => by
      cases found.symm.trans same
      rfl
  simp only [perform, payloadEvent, found, uninterrupted, gesture_eq, untracked]
  rfl

/-- In flight the loss of the grab ends the gesture. At rest it does not: the press stays. -/
theorem grabLost_run (desktop : Desktop) (settings : Settings) (operations : List Operation)
    (found : ((start desktop settings).run operations).dockable? node = some earlier) :
    let session := (start desktop settings).run operations
    let after := session.perform (.payloadEvent node .grabLost)
    (earlier.isInFlight = false → after = session) ∧
      (earlier.isInFlight = true ∨ earlier.press = none →
        ∀ further operation between later, operation.isEvent = true →
          (∀ operation ∈ further, operation.presses node = false) →
          ¬ (after.run further).LiftsOff node operation between later) := by
  have orderly := orderly_run desktop settings operations
  generalize (start desktop settings).run operations = session at found orderly
  dsimp only
  refine ⟨perform_grabLost_of_resting found, ?_⟩
  intro released further operation between later event calm
  have unpressed : (session.perform (.payloadEvent node .grabLost)).Unpressed node := by
    rcases released with flying | none
    · have settled : session.perform (.payloadEvent node .grabLost) = _ :=
        payloadEvent_grabLost found flying
      rw [settled]
      exact fun dockable foundAfter => (dormant_settleUndocked foundAfter).press
    · have unpressed : session.Unpressed node := fun dockable same => by
        cases found.symm.trans same
        exact none
      exact unpressed.perform orderly rfl
  obtain ⟨orderly, unpressed⟩ := unpressed.run (orderly.perform _) calm
  exact unpressed.not_liftsOff orderly event

def pulledAt : List Operation :=
  [.create (.new "tool"), .payloadEvent ⟨0⟩ (.pointerDown .primary ⟨10, 10⟩),
    .payloadEvent ⟨0⟩ (.pointerMove ⟨11, 10⟩)]

/-- The press outlives the grab, and the pointer that comes by later pulls the dockable along. -/
def pulledAlong : List Operation :=
  pulledAt ++ [.payloadEvent ⟨0⟩ .grabLost, .payloadEvent ⟨0⟩ (.pointerMove ⟨40, 10⟩)]

/-- The first loss of the grab does nothing, the second one ends the gesture. -/
theorem grabLost_pulledAlong :
    let pulled := (start (.withCapabilities .none) .standard).run pulledAt
    let flying := (start (.withCapabilities .none) .standard).run pulledAlong
    pulled.perform (.payloadEvent ⟨0⟩ .grabLost) = pulled ∧ pulled.inFlight = none ∧
      flying.inFlight = some ⟨0⟩ ∧
      ∀ operation between later, operation.isEvent = true →
        ¬ (flying.perform (.payloadEvent ⟨0⟩ .grabLost)).LiftsOff ⟨0⟩ operation between later := by
  obtain ⟨earlier, found⟩ := Option.isSome_iff_exists.mp (show (((start (.withCapabilities .none)
    .standard).run pulledAt).dockable? ⟨0⟩).isSome = true by decide +kernel)
  obtain ⟨flown, foundFlown⟩ := Option.isSome_iff_exists.mp (show (((start (.withCapabilities .none)
    .standard).run pulledAlong).dockable? ⟨0⟩).isSome = true by decide +kernel)
  have resting : (((start (.withCapabilities .none) .standard).run pulledAt).dockable? ⟨0⟩).any
      Dockable.isInFlight = false := by decide +kernel
  have inFlight : (((start (.withCapabilities .none) .standard).run pulledAlong).dockable? ⟨0⟩).any
      Dockable.isInFlight = true := by decide +kernel
  rw [found] at resting
  rw [foundFlown] at inFlight
  refine ⟨(grabLost_run _ _ _ found).1 resting, by decide +kernel, by decide +kernel, ?_⟩
  intro operation between later event
  exact (grabLost_run _ _ _ foundFlown).2 (.inl inFlight) [] operation between later event
    (List.forall_mem_nil _)

end Session
end Docking

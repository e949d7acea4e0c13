import Docking.Proofs.Flight.Run
import Mathlib.Logic.Relation

namespace Docking

/-! What docking does at one go. Each call and event is a sequence of such deeds, so what every
deed keeps is kept by everything that docking does. Most of them are acts, which begin no flight
and follow no pointer. -/

open Relation (ReflTransGen)

theorem Press.motion_of_track {press : Option Press} {inFlight : Bool} {event : Event}
    {root : Point} (moves : (Press.track press inFlight event).2 = .motion root) :
    event = .pointerMove root := by
  unfold Press.track at moves
  split at moves
  · cases moves
  · split at moves
    · cases moves
      rfl
    · split at moves
      · cases moves
        rfl
      · cases moves
  · dsimp only at moves
    split at moves <;> cases moves
  · cases moves

theorem Dockable.press_of_pressExceeds {dockable : Dockable} {threshold : Float32}
    (armed : dockable.pressExceeds threshold = true) :
    ∃ press, dockable.press = some press ∧ press.exceeds threshold = true := by
  unfold pressExceeds at armed
  split at armed
  · next press pressed => exact ⟨press, pressed, armed⟩
  · cases armed

theorem Carrier.snd_handle (carrier : Carrier) (scene : Scene) (press : Option Press)
    (inFlight : Bool) (event : Event) :
    (carrier.handle scene press inFlight event).2 = Press.track press inFlight event := by
  unfold Carrier.handle
  split
  · next same => exact same.symm
  · next same => exact same.symm

namespace Session

/-- What docking does by itself at one go, when it tracks no pointer and begins no flight. -/
inductive Act (session : Session) : Session → Prop
  | arrange {tree : Tree} (evolves : Tree.Evolves session.tree tree) :
      Act session { session with tree }
  | post (outbox : List Notice) : Act session { session with outbox }
  | calm (node : NodeId) :
      Act session (session.update node fun dockable => { dockable with press := none })
  | resize {node : NodeId} {dockable : Dockable} (found : session.dockable? node = some dockable)
      (edge : ResizeEdge) :
      Act session { session with
        toScene := (dockable.carrier.startInteractiveResize session.toScene edge).1 }
  | ask :
      Act session { session with
        desktop := (session.desktop.confirm session.settings.confirmTitle
          session.settings.confirmMessage).1 }
  | aim {node : NodeId} {dockable : Dockable} (found : session.dockable? node = some dockable)
      (flying : dockable.isInFlight = true) (target : Option NodeId) :
      Act session ((session.update node fun dockable =>
        { dockable with activeTarget := target }).enterPhase node
          (if target.isSome then .hovering else .dragging))
  | settle {node : NodeId} {dockable : Dockable} (found : session.dockable? node = some dockable)
      (flying : dockable.isInFlight = true) (root : Point) :
      Act session (session.settleUndocked node root)
  /-- A flight does not come about, and what was begun of it is undone. -/
  | fail {node : NodeId} {dockable : Dockable} (found : session.dockable? node = some dockable)
      (resting : dockable.isInFlight = false) {tearOut : TearOut} {failed : Session}
      {error : DockError} (begun : session.beginDrag node tearOut = (failed, .error error)) :
      Act session failed
  | dock {node : NodeId} {dockable : Dockable} (found : session.dockable? node = some dockable)
      (flying : dockable.isInFlight = true) (target : NodeId) (root : Point) (hooks : Hooks) :
      Act session (session.dock target node root hooks).session
  | syncDestroyed : Act session session.syncDestroyed
  | build (fresh : session.dockable? session.tree.nextId = none) (plan : DockablePlan) :
      Act session (session.build plan).1

abbrev Acts : Session → Session → Prop := ReflTransGen Act

inductive Deed (session : Session) : Session → Prop
  | arrange {tree : Tree} (evolves : Tree.Evolves session.tree tree) :
      Deed session { session with tree }
  | post (outbox : List Notice) : Deed session { session with outbox }
  | press (node : NodeId) (press : Option Press) :
      Deed session (session.update node fun dockable => { dockable with press })
  | follow {node : NodeId} {dockable : Dockable} (found : session.dockable? node = some dockable)
      (flying : dockable.isInFlight = true) (root : Point) :
      Deed session { session with toScene := dockable.carrier.follow session.toScene root }
  | resize {node : NodeId} {dockable : Dockable} (found : session.dockable? node = some dockable)
      (edge : ResizeEdge) :
      Deed session { session with
        toScene := (dockable.carrier.startInteractiveResize session.toScene edge).1 }
  | ask :
      Deed session { session with
        desktop := (session.desktop.confirm session.settings.confirmTitle
          session.settings.confirmMessage).1 }
  | aim {node : NodeId} {dockable : Dockable} (found : session.dockable? node = some dockable)
      (flying : dockable.isInFlight = true) (target : Option NodeId) :
      Deed session ((session.update node fun dockable =>
        { dockable with activeTarget := target }).enterPhase node
          (if target.isSome then .hovering else .dragging))
  | settle {node : NodeId} {dockable : Dockable} (found : session.dockable? node = some dockable)
      (flying : dockable.isInFlight = true) (root : Point) :
      Deed session (session.settleUndocked node root)
  | beginDrag {node : NodeId} {dockable : Dockable}
      (found : session.dockable? node = some dockable) (resting : dockable.isInFlight = false)
      (tearOut : TearOut) : Deed session (session.beginDrag node tearOut).1
  | dock {node : NodeId} {dockable : Dockable} (found : session.dockable? node = some dockable)
      (flying : dockable.isInFlight = true) (target : NodeId) (root : Point) (hooks : Hooks) :
      Deed session (session.dock target node root hooks).session
  | syncDestroyed : Deed session session.syncDestroyed
  | build (fresh : session.dockable? session.tree.nextId = none) (plan : DockablePlan) :
      Deed session (session.build plan).1

abbrev Deeds : Session → Session → Prop := ReflTransGen Deed

variable {session after : Session} {node : NodeId}

theorem Act.deed (act : Act session after) : Deed session after := by
  cases act with
  | arrange evolves => exact .arrange evolves
  | post outbox => exact .post outbox
  | calm node => exact .press node none
  | resize found edge => exact .resize found edge
  | ask => exact .ask
  | aim found flying target => exact .aim found flying target
  | settle found flying root => exact .settle found flying root
  | @fail node dockable found resting tearOut failed error begun =>
      have deed := Deed.beginDrag found resting tearOut
      rw [begun] at deed
      exact deed
  | dock found flying target root hooks => exact .dock found flying target root hooks
  | syncDestroyed => exact .syncDestroyed
  | build fresh plan => exact .build fresh plan

theorem deeds_of_acts (acts : Acts session after) : Deeds session after :=
  ReflTransGen.mono (fun _ _ => Act.deed) _ _ acts

/-- A dockable at rest is taken into flight with the pointer at `root`, after edits of the tree
that make it free. -/
inductive Launches (session : Session) (node : NodeId) (root : Point) : Session → Prop
  | intro {dockable : Dockable} {rect : Rect} {tree : Tree} {asked : TearOut} {flying : Session}
      (found : session.dockable? node = some dockable) (resting : dockable.isInFlight = false)
      (shown : session.screenRect? node = some rect) (grab : asked.grab = root - rect.position)
      (evolves : Tree.Evolves session.tree tree)
      (begun : beginDrag { session with tree } node asked = (flying, .ok ()))
      (outbox : List Notice) : Launches session node root { flying with outbox }

theorem Launches.deeds {root : Point} (launches : session.Launches node root after) :
    Deeds session after := by
  obtain @⟨dockable, rect, tree, asked, flying, found, resting, shown, grab, evolves, begun, outbox⟩ :=
    launches
  have deed := @Deed.beginDrag { session with tree } node dockable found resting asked
  rw [begun] at deed
  exact ((ReflTransGen.single (.arrange evolves)).tail deed).tail (.post outbox)

theorem acts_destroyWidget (session : Session) (node : NodeId) :
    Acts session (session.destroyWidget node) :=
  .tail (.single (.arrange (.apply session.tree (.destroy node)))) .syncDestroyed

theorem acts_or_launches_tearOut (session : Session) (node : NodeId) (root : Point) :
    Acts session (session.tearOut node root).1 ∨
      session.Launches node root (session.tearOut node root).1 := by
  rcases session.staysPut_or_begins node root with ⟨result, stays⟩ | ⟨dockable, asked, begins⟩
  · rw [stays.unchanged]
    exact .inl .refl
  · obtain ⟨rect, shown, grab⟩ := begins.shown
    rw [begins.begun]
    cases begun : session.beginDrag node asked with
    | mk left result =>
        cases result with
        | ok =>
            exact .inr (.intro begins.found begins.resting shown grab (.refl _) begun left.outbox)
        | error error => exact .inl (.single (.fail begins.found begins.resting begun))

section Dockable

variable {dockable : Dockable} (found : session.dockable? node = some dockable)
include found

theorem acts_releaseUndocked (flying : dockable.isInFlight = true) (root : Point) :
    Acts session (session.releaseUndocked node root) := by
  have settled : Acts session (session.settleUndocked node root) :=
    .single (.settle found flying root)
  unfold releaseUndocked
  dsimp only
  split
  · split
    · exact .tail settled .ask
    · exact (settled.tail .ask).trans (acts_destroyWidget _ node)
  · exact settled

theorem acts_interruption? {event : Event} {outcome : Session × Status}
    (interrupted : session.interruption? node dockable event = some outcome) :
    (∃ root, event = .pointerDown .primary root ∧ session.missesHandle dockable root = true ∧
        outcome.1 = session.update node fun dockable => { dockable with press := none }) ∨
      Acts session outcome.1 ∧
        ∀ press inFlight, (Press.track press inFlight event).1 = press := by
  unfold interruption? at interrupted
  split at interrupted
  · split at interrupted
    · next flying =>
        cases interrupted
        exact .inr ⟨.single (.settle found flying _), fun _ _ => rfl⟩
    · cases interrupted
  · split at interrupted
    · next flying =>
        cases interrupted
        rw [Bool.and_eq_true] at flying
        exact .inr ⟨.single (.settle found flying.1 _), fun _ _ => rfl⟩
    · cases interrupted
  · split at interrupted
    · next misses =>
        cases interrupted
        exact .inl ⟨_, rfl, misses, rfl⟩
    · cases interrupted
  · split at interrupted
    · cases interrupted
      refine .inr ⟨?_, fun _ _ => rfl⟩
      dsimp only
      split
      · next flying => exact .single (.settle found flying _)
      · split
        · exact session.acts_destroyWidget node
        · exact .refl
    · cases interrupted
  · split at interrupted
    · next flying =>
        cases interrupted
        exact .inr ⟨acts_releaseUndocked found flying _, fun _ _ => rfl⟩
    · cases interrupted
  · cases interrupted

theorem acts_or_launches_respond (gesture : Gesture) :
    Acts session (session.respond node dockable.phase gesture).1 ∨
      ∃ root, gesture = .motion root ∧ dockable.phase = .undocked ∧
        dockable.pressExceeds session.settings.dragThreshold = true ∧
        session.Launches node root (session.respond node dockable.phase gesture).1 := by
  cases gesture with
  | ignored => exact .inl .refl
  | pressed root => exact .inl .refl
  | motion root =>
      cases dockable.phase with
      | undocked =>
          simp only [respond, found]
          split
          · next armed =>
              exact (session.acts_or_launches_tearOut node root).imp_right
                fun launches => ⟨root, rfl, trivial, armed, launches⟩
          · exact .inl .refl
      | dragging => exact .inl .refl
      | hovering => exact .inl .refl
      | docked => exact .inl .refl
  | released root =>
      left
      cases phase : dockable.phase with
      | undocked => exact .refl
      | dragging => exact acts_releaseUndocked found (congrArg Phase.isInFlight phase) root
      | hovering =>
          dsimp only [respond]
          split
          · exact .single (.post _)
          · exact acts_releaseUndocked found (congrArg Phase.isInFlight phase) root
      | docked => exact .refl

end Dockable

def tracked (session : Session) (node : NodeId) (dockable : Dockable) (event : Event) : Session :=
  update { session with
      toScene := (dockable.carrier.handle session.toScene dockable.press dockable.isInFlight
        event).1 } node
    fun current => { current with
      press := (Press.track dockable.press dockable.isInFlight event).1 }

theorem gesture_eq (session : Session) (node : NodeId) (dockable : Dockable) (event : Event) :
    session.gesture node dockable event =
      (session.tracked node dockable event).respond node dockable.phase
        (Press.track dockable.press dockable.isInFlight event).2 := by
  rw [tracked, ← Carrier.snd_handle dockable.carrier session.toScene]
  rfl

theorem dockable?_tracked {dockable : Dockable} (found : session.dockable? node = some dockable)
    (event : Event) :
    (session.tracked node dockable event).dockable? node =
      some { dockable with
        press := (Press.track dockable.press dockable.isInFlight event).1 } := by
  rw [tracked, dockable?_update, if_pos rfl]
  exact congrArg (Option.map _) found

theorem deeds_tracked {dockable : Dockable} (found : session.dockable? node = some dockable)
    (event : Event) : Deeds session (session.tracked node dockable event) := by
  refine .tail ?_ (.press node _)
  unfold Carrier.handle
  split
  · dsimp only
    split
    · next flying => exact .single (.follow found flying _)
    · exact .refl
  · exact .refl

def misses (session : Session) (dockable : Dockable) : Event → Bool
  | .pointerDown .primary root => session.missesHandle dockable root
  | _ => false

inductive Fed (session : Session) (node : NodeId) (event : Event) : Session → Prop
  | unknown (missing : session.dockable? node = none) : Fed session node event session
  | missed {dockable : Dockable} (found : session.dockable? node = some dockable)
      (misses : session.misses dockable event = true) :
      Fed session node event (session.update node fun dockable => { dockable with press := none })
  | interrupted {dockable : Dockable} {after : Session}
      (found : session.dockable? node = some dockable)
      (apart : ∀ press inFlight, (Press.track press inFlight event).1 = press)
      (acts : Acts session after) : Fed session node event after
  | responded {dockable : Dockable} {after : Session}
      (found : session.dockable? node = some dockable)
      (hits : session.misses dockable event = false)
      (acts : Acts (session.tracked node dockable event) after) : Fed session node event after
  | tornOut {dockable : Dockable} {press : Press} {root : Point} {after : Session}
      (found : session.dockable? node = some dockable) (undocked : dockable.phase = .undocked)
      (moves : event = .pointerMove root) (pressed : dockable.press = some press)
      (armed : (press.moveTo root).exceeds session.settings.dragThreshold = true)
      (launches : (session.tracked node dockable event).Launches node root after) :
      Fed session node event after

theorem hits_of_uninterrupted {dockable : Dockable} {event : Event}
    (uninterrupted : session.interruption? node dockable event = none) :
    session.misses dockable event = false := by
  unfold misses
  split
  · simp only [interruption?] at uninterrupted
    split at uninterrupted
    · cases uninterrupted
    · next hits => exact Bool.eq_false_iff.mpr hits
  · rfl

theorem fed_payloadEvent (session : Session) (node : NodeId) (event : Event) :
    session.Fed node event (session.payloadEvent node event).1 := by
  unfold payloadEvent
  split
  · next missing => exact .unknown missing
  · next dockable found =>
      split
      · next outcome interrupted =>
          rcases acts_interruption? found interrupted with
            ⟨root, pressed, misses, same⟩ | ⟨acts, apart⟩
          · rw [same]
            subst pressed
            exact .missed found misses
          · exact .interrupted found apart acts
      · next uninterrupted =>
          rw [gesture_eq]
          rcases acts_or_launches_respond (dockable?_tracked found event)
            (Press.track dockable.press dockable.isInFlight event).2 with
            acts | ⟨root, motion, undocked, armed, launches⟩
          · exact .responded found (hits_of_uninterrupted uninterrupted) acts
          · have moves := Press.motion_of_track motion
            obtain ⟨press, pressed, armed⟩ : ∃ press, dockable.press = some press ∧
                (press.moveTo root).exceeds session.settings.dragThreshold = true := by
              subst moves
              obtain ⟨moved, tracked, armed⟩ := Dockable.press_of_pressExceeds armed
              cases pressed : dockable.press with
              | none => simp [Press.track, pressed] at tracked
              | some press =>
                  rw [pressed] at tracked
                  cases tracked
                  exact ⟨press, rfl, armed⟩
            exact .tornOut found undocked moves pressed armed launches

theorem acts_forceUndocked (session : Session) (node : NodeId) :
    Acts session (session.forceUndocked node).1 := by
  unfold forceUndocked
  split
  · exact .refl
  · next dockable found =>
      split
      · exact .refl
      · exact .refl
      · next phase => exact .single (.settle found (congrArg Phase.isInFlight phase) _)
      · next phase => exact .single (.settle found (congrArg Phase.isInFlight phase) _)

theorem acts_startInteractiveResize (session : Session) (node : NodeId) (edge : ResizeEdge) :
    Acts session (session.startInteractiveResize node edge).1 := by
  unfold startInteractiveResize
  split
  · exact .refl
  · next dockable found =>
      split
      · exact .refl
      · exact .single (.resize found edge)

section Target

variable (target : NodeId) (hooks : Hooks)

theorem act_giveFeedback (session : Session) (shown : Bool) :
    Act session (session.giveFeedback hooks target shown).1 :=
  .arrange (session.evolves_giveFeedback target hooks shown)

theorem act_dropCandidate {dockable : Dockable} (found : session.dockable? node = some dockable)
    (flying : dockable.isInFlight = true) : Act session (session.dropCandidate node) :=
  .aim found flying none

theorem acts_takeOver {dockable : Dockable} (found : session.dockable? node = some dockable)
    (flying : dockable.isInFlight = true) (previous : Option NodeId) :
    Acts session (session.takeOver target node previous) := by
  cases previous with
  | none => exact .single (.aim found flying (some target))
  | some previous =>
      have told : Acts session (session.notify previous .dockLeave) := .single (.post _)
      have known : (session.notify previous .dockLeave).dockable? node = some dockable := found
      exact told.tail (.aim known flying (some target))

theorem acts_targetMotion (orderly : session.Orderly) (flying : session.inFlight = some node)
    (root : Point) :
    Acts session (session.targetMotion target node root hooks).session := by
  obtain ⟨dockable, found, inFlight⟩ := orderly.dockable?_of_inFlight flying
  have taken (previous : Option NodeId) := (acts_takeOver target found inFlight previous).tail
    (act_giveFeedback target hooks _ true)
  have moved := session.moved_targetMotion node target hooks root
  generalize session.targetMotion target node root hooks = reaction at moved ⊢
  cases moved with
  | unknown missing => exact .refl
  | refused => exact .refl
  | left =>
      exact .tail (.single (act_giveFeedback target hooks session false))
        (act_dropCandidate found inFlight)
  | kept => exact .refl
  | taken => exact taken _

theorem acts_targetLeave (orderly : session.Orderly) :
    Acts session (session.targetLeave target hooks).session := by
  have told := ReflTransGen.single (act_giveFeedback target hooks session false)
  unfold targetLeave
  dsimp only
  split
  · exact told
  · next dragged flying =>
      obtain ⟨dockable, found, inFlight⟩ := orderly.dockable?_of_inFlight flying
      have known : (session.giveFeedback hooks target false).1.dockable? dragged =
        some dockable := found
      split
      · exact told.tail (act_dropCandidate known inFlight)
      · exact told

theorem acts_or_launches_tearOutChild (session : Session) (root : Point) :
    Acts session (session.tearOutChild target root hooks).session ∨
      ∃ node, session.armedChild? target = some node ∧
        session.Launches node root (session.tearOutChild target root hooks).session := by
  unfold tearOutChild
  cases armed : session.armedChild? target with
  | none => exact .inl .refl
  | some node =>
      obtain ⟨dockable, found, docked, _⟩ := docked_of_armedChild? target armed
      have resting : dockable.isInFlight = false := congrArg Phase.isInFlight docked
      dsimp only
      cases shown : session.screenRect? node with
      | none => exact .inl .refl
      | some rect =>
          have freed := (Tree.Evolves.edit session.tree (hooks.remove.getD
            (fun _ _ dockable => [.detach dockable]) session.tree target node)).trans
              (.apply _ (.detach node))
          dsimp only
          generalize asked : (⟨root, root - rect.position, some target, _⟩ : TearOut) = tearOut
          have grab : tearOut.grab = root - rect.position := by rw [← asked]
          cases begun : beginDrag { session with
            tree := ((hooks.runRemove session.tree target node).1.detach node).1 } node tearOut with
          | mk left result =>
              cases result with
              | ok =>
                  refine .inr ⟨node, rfl, ?_⟩
                  exact .intro found resting shown grab freed begun _
              | error error =>
                  have failed : Acts session left :=
                    .tail (.single (.arrange freed)) (@Act.fail { session with
                      tree := ((hooks.runRemove session.tree target node).1.detach node).1 } node
                        dockable found resting _ _ _ begun)
                  have calmed := failed.tail (.calm node)
                  dsimp only
                  split
                  · exact .inl (calmed.trans (acts_destroyWidget _ _))
                  · exact .inl calmed

theorem acts_or_launches_targetEvent (orderly : session.Orderly) (event : Event) :
    Acts session (session.targetEvent target event hooks).session ∨
      ∃ node root, event = .pointerMove root ∧ session.inFlight = none ∧
        session.armedChild? target = some node ∧
        session.Launches node root (session.targetEvent target event hooks).session := by
  have heard := session.heard_targetEvent target event hooks
  generalize session.targetEvent target event hooks = reaction at heard ⊢
  cases heard with
  | ignored status => exact .inl .refl
  | left leaves => exact .inl (acts_targetLeave target hooks orderly)
  | @tornOut root grounded moves =>
      exact (session.acts_or_launches_tearOutChild target hooks root).imp_right
        fun ⟨node, armed, launches⟩ => ⟨node, root, moves, grounded, armed, launches⟩
  | moved flying moves => exact .inl (acts_targetMotion target hooks orderly flying _)
  | released flying still aiming =>
      obtain ⟨dockable, found, inFlight⟩ := orderly.dockable?_of_inFlight flying
      exact .inl (.single (.dock found inFlight target _ hooks))

end Target

/-- The ways in which a flight begins other than by an event on the dockable itself: by a call,
and by a strong drag in its container. -/
inductive Pulls (session : Session) (node : NodeId) (root : Point) : Operation → Prop
  | tearOut : Pulls session node root (.tearOut node root)
  | strongDrag {target : NodeId} {hooks : Hooks} (grounded : session.inFlight = none)
      (armed : session.armedChild? target = some node) :
      Pulls session node root (.targetEvent target (.pointerMove root) hooks)

/-- Events on dockables and the application's own use of the windowing system apart, every
operation is a sequence of acts, or it begins a flight. -/
theorem acts_or_launches_perform (orderly : session.Orderly) {operation : Operation}
    (inhouse : ∀ command, operation ≠ .command command)
    (apart : ∀ node event, operation ≠ .payloadEvent node event) :
    Acts session (session.perform operation) ∨
      ∃ node root, session.Pulls node root operation ∧
        session.Launches node root (session.perform operation) := by
  cases operation with
  | edit change => exact .inl (.single (.arrange (.apply session.tree change)))
  | command command => exact absurd rfl (inhouse command)
  | create plan =>
      unfold perform create
      dsimp only
      split
      · split
        · exact .inl (.single (.build orderly.fresh plan))
        · exact .inl .refl
      · exact .inl (.single (.build orderly.fresh plan))
  | destroyDockable node =>
      unfold perform destroyDockable
      dsimp only
      split
      · exact .inl (session.acts_destroyWidget node)
      · exact .inl .refl
  | destroyWidget node => exact .inl (session.acts_destroyWidget node)
  | syncDestroyed => exact .inl (.single .syncDestroyed)
  | tearOut node root =>
      exact (session.acts_or_launches_tearOut node root).imp_right
        fun launches => ⟨node, root, .tearOut, launches⟩
  | forceUndocked node => exact .inl (session.acts_forceUndocked node)
  | startInteractiveResize node edge => exact .inl (session.acts_startInteractiveResize node edge)
  | payloadEvent node event => exact absurd rfl (apart node event)
  | targetEvent target event hooks =>
      rcases acts_or_launches_targetEvent target hooks orderly event with
        acts | ⟨node, root, rfl, grounded, armed, launches⟩
      · exact .inl acts
      · exact .inr ⟨node, root, .strongDrag grounded armed, launches⟩
  | takeNotices => exact .inl (.single (.post []))

theorem deeds_payloadEvent (session : Session) (node : NodeId) (event : Event) :
    Deeds session (session.payloadEvent node event).1 := by
  have fed := session.fed_payloadEvent node event
  generalize (session.payloadEvent node event).1 = after at fed ⊢
  cases fed with
  | unknown missing => exact .refl
  | missed found misses => exact .single (.press node none)
  | interrupted found apart acts => exact deeds_of_acts acts
  | responded found hits acts => exact (deeds_tracked found event).trans (deeds_of_acts acts)
  | tornOut found undocked moves pressed armed launches =>
      exact (deeds_tracked found event).trans launches.deeds

theorem deeds_perform (orderly : session.Orderly) {operation : Operation}
    (inhouse : ∀ command, operation ≠ .command command) :
    Deeds session (session.perform operation) := by
  by_cases apart : ∀ node event, operation ≠ .payloadEvent node event
  · rcases acts_or_launches_perform orderly inhouse apart with acts | ⟨node, root, _, launches⟩
    · exact deeds_of_acts acts
    · exact launches.deeds
  · push Not at apart
    obtain ⟨node, event, rfl⟩ := apart
    exact session.deeds_payloadEvent node event

end Session
end Docking

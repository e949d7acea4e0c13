import Docking.Event.Native
import Docking.Proofs.Event.Queue

namespace Docking

/-! Native notifications on their way to docking: they are read one by one, queued, and drained
now and then. Moves give way to later ones, but a click stays where the pointer was. -/

namespace Event

def movedTo? : Event → Option Point
  | .pointerMove root => some root
  | _ => none

def clickedAt? : Event → Option Point
  | .pointerDown _ root | .pointerUp _ root => some root
  | _ => none

def isClick (event : Event) : Bool := event.clickedAt?.isSome

/-- Where the pointer was moved last, which is the origin before it has moved. -/
def lastMove (events : List Event) : Point := (events.filterMap movedTo?).getLastD .zero

/-- Each click is where the pointer was moved last before it. -/
def Stamped (events : List Event) : Prop :=
  ∀ front event back, events = front ++ event :: back →
    ∀ root, event.clickedAt? = some root → root = lastMove front

variable {events : List Event} {event : Event}

theorem movedTo?_of_isWindowLevel (level : event.isWindowLevel = true) :
    event.movedTo? = none := by
  obtain ⟨window, rfl | rfl⟩ | rfl := event.isWindowLevel_iff.mp level <;> rfl

theorem isClick_of_isWindowLevel (level : event.isWindowLevel = true) :
    event.isClick = false := by
  obtain ⟨window, rfl | rfl⟩ | rfl := event.isWindowLevel_iff.mp level <;> rfl

theorem isClick_of_isMotion (moves : event.isMotion = true) : event.isClick = false := by
  obtain ⟨root, rfl⟩ := event.isMotion_iff.mp moves
  rfl

theorem lastMove_concat (events : List Event) (event : Event) :
    lastMove (events ++ [event]) = event.movedTo?.getD (lastMove events) := by
  unfold lastMove
  cases moved : event.movedTo? with
  | none => simp [moved]
  | some root => simp [moved]

theorem stamped_nil : Stamped [] :=
  fun _ _ _ split => nomatch (List.append_eq_nil_iff.mp split.symm).2

theorem Stamped.of_append {rest : List Event} (stamped : Stamped (events ++ rest)) :
    Stamped events := by
  intro front click back split root clicked
  refine stamped front click (back ++ rest) ?_ root clicked
  rw [split, List.append_assoc, List.cons_append]

theorem Stamped.concat (stamped : Stamped events)
    (here : ∀ root, event.clickedAt? = some root → root = lastMove events) :
    Stamped (events ++ [event]) := by
  intro front click back split root clicked
  rcases List.eq_nil_or_concat back with rfl | ⟨rest, last, rfl⟩
  · obtain ⟨rfl, same⟩ := List.append_inj' split rfl
    cases same
    exact here root clicked
  · rw [List.concat_eq_append, ← List.cons_append, ← List.append_assoc] at split
    obtain ⟨same, _⟩ := List.append_inj' split rfl
    exact stamped front click rest same root clicked

/-! Window-level events do not count. -/

theorem lastMove_others (events : List Event) : lastMove (others events) = lastMove events := by
  unfold lastMove others
  rw [List.filterMap_filter]
  congr 1
  refine List.filterMap_congr fun event _ => ?_
  cases level : event.isWindowLevel with
  | true => simp [movedTo?_of_isWindowLevel level]
  | false => simp

theorem filter_isClick_others (events : List Event) :
    (others events).filter isClick = events.filter isClick := by
  unfold others
  rw [List.filter_filter]
  refine List.filter_congr fun event _ => ?_
  cases level : event.isWindowLevel with
  | true => simp [isClick_of_isWindowLevel level]
  | false => simp

theorem stamped_of_others (stamped : Stamped (others events)) : Stamped events := by
  intro front click back split root clicked
  have level : click.isWindowLevel = false := by
    cases click with
    | pointerDown button root => rfl
    | pointerUp button root => rfl
    | _ => cases clicked
  rw [← lastMove_others front]
  refine stamped (others front) click (others back) ?_ root clicked
  simp [split, others, level]

/-- How an event that is pushed joins those that are on their way. -/
inductive Joins (event : Event) (events : List Event) : List Event → Prop
  | overtakes (level : event.isWindowLevel = true) : Joins event events events
  | follows : Joins event events (events ++ [event])
  | replaces {front : List Event} {last : Event} (moves : event.isMotion = true)
      (moved : last.isMotion = true) (ends : events = front ++ [last]) :
      Joins event events (front ++ [event])

namespace Joins

variable {after : List Event} (joins : Joins event events after)
include joins

theorem lastMove_eq : lastMove after = event.movedTo?.getD (lastMove events) := by
  cases joins with
  | overtakes level => rw [movedTo?_of_isWindowLevel level, Option.getD_none]
  | follows => exact lastMove_concat events event
  | replaces moves moved ends =>
      obtain ⟨root, rfl⟩ := event.isMotion_iff.mp moves
      rw [lastMove_concat]
      rfl

theorem stamped (stamped : Stamped events)
    (here : ∀ root, event.clickedAt? = some root → root = lastMove events) : Stamped after := by
  cases joins with
  | overtakes level => exact stamped
  | follows => exact stamped.concat here
  | replaces moves moved ends =>
      obtain ⟨root, rfl⟩ := event.isMotion_iff.mp moves
      rw [ends] at stamped
      exact stamped.of_append.concat fun _ clicked => nomatch clicked

theorem filter_isClick_eq :
    after.filter isClick = events.filter isClick ++ [event].filter isClick := by
  cases joins with
  | overtakes level => simp [isClick_of_isWindowLevel level]
  | follows => exact List.filter_append _ _
  | replaces moves moved ends =>
      simp [ends, isClick_of_isMotion moves, isClick_of_isMotion moved]

end Joins
end Event

namespace EventQueue

variable (queue : EventQueue) (event : Event)

theorem joins_push (before : List Event) :
    event.Joins (before ++ queue.pending) (before ++ (queue.push event).pending) := by
  unfold push
  dsimp only
  split
  · next level => exact .overtakes level
  · split
    · next follows =>
        rw [Bool.and_eq_true, endsInMotion_eq] at follows
        obtain ⟨last, ends, moved⟩ := (Option.any_eq_true _ _).mp follows.2
        obtain ⟨front, pending_eq⟩ := List.getLast?_eq_some_iff.mp ends
        rw [pending_eq, List.dropLast_concat, ← List.append_assoc, ← List.append_assoc]
        exact .replaces follows.1 moved rfl
    · rw [← List.append_assoc]
      exact .follows

theorem urgent_push (urgent : ∀ waiting ∈ queue.urgent, waiting.isWindowLevel = true) :
    ∀ waiting ∈ (queue.push event).urgent, waiting.isWindowLevel = true := by
  unfold push
  dsimp only
  split
  · next level => exact List.forall_mem_append.mpr ⟨urgent, by simpa using level⟩
  · split <;> exact urgent

theorem pending_push (pending : ∀ waiting ∈ queue.pending, waiting.isWindowLevel = false) :
    ∀ waiting ∈ (queue.push event).pending, waiting.isWindowLevel = false := by
  unfold push
  dsimp only
  split
  · exact pending
  · next level =>
      rw [Bool.not_eq_true] at level
      split
      · refine List.forall_mem_append.mpr ⟨fun waiting member => ?_, by simpa using level⟩
        exact pending waiting (List.dropLast_subset _ member)
      · exact List.forall_mem_append.mpr ⟨pending, by simpa using level⟩

end EventQueue

structure Intake where
  translator : EventTranslator
  queue : EventQueue
  drained : List Event

namespace Intake

inductive Step
  | notify (window : WindowId) (origin : Point) (scaleFactor : Float) (native : NativeEvent)
  | drain

namespace Step

def movedTo? : Step → Option Point
  | .notify _ origin scaleFactor (.cursorMoved x y) =>
      some (origin + EventTranslator.logicalPosition x y scaleFactor)
  | _ => none

/-- The button that changed, if it is one of the three that docking knows, and whether it was
pressed. -/
def change? : Step → Option (PointerButton × Bool)
  | .notify _ _ _ (.mouseInput .left pressed) => some (.primary, pressed)
  | .notify _ _ _ (.mouseInput .right pressed) => some (.secondary, pressed)
  | .notify _ _ _ (.mouseInput .middle pressed) => some (.middle, pressed)
  | _ => none

def presses? (button : PointerButton) (step : Step) : Option Bool :=
  (step.change?.filter fun change => change.1 = button).map Prod.snd

def click? (root : Point) (step : Step) : Option Event :=
  step.change?.map fun change =>
    if change.2 then .pointerDown change.1 root else .pointerUp change.1 root

/-- The clicks of native notifications in order, each where the cursor was moved last. -/
def clicks (root : Point) : List Step → List Event
  | [] => []
  | step :: rest => (step.click? root).toList ++ clicks (step.movedTo?.getD root) rest

theorem clickedAt?_of_click? {root : Point} {step : Step} {event : Event}
    (clicks : step.click? root = some event) : event.clickedAt? = some root := by
  obtain ⟨⟨button, pressed⟩, _, rfl⟩ := Option.map_eq_some_iff.mp clicks
  cases pressed <;> rfl

section Translate

variable (translator : EventTranslator) (window : WindowId) (origin : Point)
  (scaleFactor : Float) (native : NativeEvent)

theorem movedTo?_notify :
    (notify window origin scaleFactor native).movedTo? =
      (translator.translate window origin scaleFactor native).2.bind Event.movedTo? := by
  cases native with
  | mouseInput button pressed => cases button <;> cases pressed <;> rfl
  | focused on => cases on <;> rfl
  | _ => rfl

theorem root_translate :
    (translator.translate window origin scaleFactor native).1.pointer.root =
      (notify window origin scaleFactor native).movedTo?.getD translator.pointer.root := by
  cases native with
  | mouseInput button pressed => cases button <;> rfl
  | _ => rfl

theorem click?_notify :
    (notify window origin scaleFactor native).click? translator.pointer.root =
      (translator.translate window origin scaleFactor native).2.filter Event.isClick := by
  cases native with
  | mouseInput button pressed => cases button <;> cases pressed <;> rfl
  | focused on => cases on <;> rfl
  | _ => rfl

theorem holds_translate (button : PointerButton) :
    (translator.translate window origin scaleFactor native).1.pointer.buttons.holds button =
      ((notify window origin scaleFactor native).presses? button).getD
        (translator.pointer.buttons.holds button) := by
  cases native with
  | mouseInput changed pressed => cases changed <;> cases button <;> rfl
  | _ => rfl

end Translate
end Step

def initial : Intake := ⟨.initial, .empty, []⟩

def keep (intake : Intake) : EventTranslator × Option Event → Intake
  | (translator, none) => { intake with translator }
  | (translator, some event) => { intake with translator, queue := intake.queue.push event }

def take (intake : Intake) : Step → Intake
  | .notify window origin scaleFactor native =>
      intake.keep (intake.translator.translate window origin scaleFactor native)
  | .drain =>
      let emptied := intake.queue.drain
      { intake with queue := emptied.1, drained := intake.drained ++ emptied.2 }

def run (intake : Intake) (steps : List Step) : Intake := steps.foldl take intake

/-- What comes out, or will, of all that is not window-level, if nothing more goes in. -/
def stream (intake : Intake) : List Event := Event.others intake.drained ++ intake.queue.pending

/-- The stream is stamped with the positions that the translator remembered. -/
structure Consistent (intake : Intake) : Prop where
  urgent : ∀ event ∈ intake.queue.urgent, event.isWindowLevel = true
  pending : ∀ event ∈ intake.queue.pending, event.isWindowLevel = false
  stamped : Event.Stamped intake.stream
  lastMove_eq : Event.lastMove intake.stream = intake.translator.pointer.root

theorem consistent_initial : initial.Consistent where
  urgent := List.forall_mem_nil _
  pending := List.forall_mem_nil _
  stamped := Event.stamped_nil
  lastMove_eq := rfl

variable {intake : Intake}

theorem Consistent.drain (consistent : intake.Consistent) :
    (intake.take .drain).Consistent ∧ (intake.take .drain).stream = intake.stream := by
  have same : (intake.take .drain).stream = intake.stream := by
    have overtaking : Event.others intake.queue.urgent = [] := by
      simpa [Event.others] using consistent.urgent
    have rest : Event.others intake.queue.pending = intake.queue.pending := by
      simpa [Event.others] using consistent.pending
    have split : Event.others (intake.drained ++ (intake.queue.urgent ++ intake.queue.pending)) =
        Event.others intake.drained ++ (Event.others intake.queue.urgent ++
          Event.others intake.queue.pending) := by
      simp [Event.others]
    rw [overtaking, rest, List.nil_append] at split
    exact (List.append_nil _).trans split
  refine ⟨⟨List.forall_mem_nil _, List.forall_mem_nil _, ?_, ?_⟩, same⟩
  · rw [same]
    exact consistent.stamped
  · rw [same]
    exact consistent.lastMove_eq

theorem Consistent.push (consistent : intake.Consistent) {translator : EventTranslator}
    {event : Event}
    (here : ∀ root, event.clickedAt? = some root → root = intake.translator.pointer.root)
    (moves : translator.pointer.root = event.movedTo?.getD intake.translator.pointer.root) :
    Consistent { intake with translator, queue := intake.queue.push event } where
  urgent := intake.queue.urgent_push event consistent.urgent
  pending := intake.queue.pending_push event consistent.pending
  stamped := by
    refine (intake.queue.joins_push event _).stamped consistent.stamped fun root clicked => ?_
    exact (here root clicked).trans consistent.lastMove_eq.symm
  lastMove_eq := by
    have known : Event.lastMove (Event.others intake.drained ++ intake.queue.pending) =
        intake.translator.pointer.root := consistent.lastMove_eq
    refine (intake.queue.joins_push event _).lastMove_eq.trans ?_
    rw [known]
    exact moves.symm

structure Takes (intake : Intake) (step : Step) (after : Intake) : Prop where
  consistent : after.Consistent
  root_eq : after.translator.pointer.root = step.movedTo?.getD intake.translator.pointer.root
  clicks_eq : after.stream.filter Event.isClick = intake.stream.filter Event.isClick ++
    (step.click? intake.translator.pointer.root).toList
  holds_eq : ∀ button, after.translator.pointer.buttons.holds button =
    (step.presses? button).getD (intake.translator.pointer.buttons.holds button)

theorem Consistent.takes (consistent : intake.Consistent) (step : Step) :
    intake.Takes step (intake.take step) := by
  cases step with
  | drain =>
      obtain ⟨kept, same⟩ := consistent.drain
      exact ⟨kept, rfl, same ▸ (List.append_nil _).symm, fun _ => rfl⟩
  | notify window origin scaleFactor native =>
      have root_eq := Step.root_translate intake.translator window origin scaleFactor native
      have moved := Step.movedTo?_notify intake.translator window origin scaleFactor native
      have clicked := Step.click?_notify intake.translator window origin scaleFactor native
      have holds_eq := Step.holds_translate intake.translator window origin scaleFactor native
      rw [take]
      -- from here on it only matters whether the notification was read as an event
      generalize intake.translator.translate window origin scaleFactor native = read
        at root_eq moved clicked holds_eq ⊢
      obtain ⟨translator, told⟩ := read
      cases told with
      | none =>
          rw [Option.bind_none] at moved
          rw [moved] at root_eq
          refine ⟨⟨consistent.urgent, consistent.pending, consistent.stamped, ?_⟩, ?_, ?_, holds_eq⟩
          · exact consistent.lastMove_eq.trans root_eq.symm
          · rw [moved]
            exact root_eq
          · rw [clicked]
            exact (List.append_nil _).symm
      | some event =>
          rw [Option.bind_some] at moved
          rw [moved] at root_eq
          refine ⟨consistent.push ?_ root_eq, ?_, ?_, holds_eq⟩
          · intro root clicks
            have isClick : event.isClick = true := by rw [Event.isClick, clicks, Option.isSome_some]
            rw [Option.filter_some_pos isClick] at clicked
            exact Option.some.inj (clicks.symm.trans (Step.clickedAt?_of_click? clicked))
          · rw [moved]
            exact root_eq
          · have told_eq : [event].filter Event.isClick =
                ((some event).filter Event.isClick).toList := by
              cases isClick : event.isClick <;> simp [isClick, Option.filter]
            rw [clicked, ← told_eq]
            exact (intake.queue.joins_push event _).filter_isClick_eq

theorem Consistent.run (consistent : intake.Consistent) (steps : List Step) :
    (intake.run steps).Consistent ∧
      (intake.run steps).stream.filter Event.isClick = intake.stream.filter Event.isClick ++
        Step.clicks intake.translator.pointer.root steps ∧
      ∀ button, (intake.run steps).translator.pointer.buttons.holds button =
        (steps.filterMap (Step.presses? button)).getLastD
          (intake.translator.pointer.buttons.holds button) := by
  induction steps generalizing intake with
  | nil => exact ⟨consistent, (List.append_nil _).symm, fun _ => rfl⟩
  | cons step rest induction =>
      have taken := consistent.takes step
      obtain ⟨kept, clicks_eq, holds_eq⟩ := induction taken.consistent
      refine ⟨kept, ?_, fun button => ?_⟩
      · rw [run, List.foldl_cons, ← run, clicks_eq, taken.clicks_eq, taken.root_eq,
          List.append_assoc]
        rfl
      · rw [run, List.foldl_cons, ← run, holds_eq, taken.holds_eq]
        cases presses : step.presses? button with
        | none => rw [List.filterMap_cons_none presses, Option.getD_none]
        | some pressed =>
            rw [List.filterMap_cons_some presses, Option.getD_some, List.getLastD_cons]

/-- What comes out of native notifications that went in, whenever the queue was drained. -/
structure Faithful (steps : List Step) : Prop where
  stamped : Event.Stamped (initial.run steps).drained
  /-- No click is lost, added or overtaken by another. -/
  clicks_eq : (initial.run (steps ++ [.drain])).drained.filter Event.isClick =
    Step.clicks .zero steps
  /-- A button is held if what was heard of it last is that it was pressed. -/
  holds_eq : ∀ button, (initial.run steps).translator.pointer.buttons.holds button =
    (steps.filterMap (Step.presses? button)).getLastD false

theorem faithful_run (steps : List Step) : Faithful steps := by
  obtain ⟨consistent, clicks_eq, holds_eq⟩ := consistent_initial.run steps
  have emptied : (initial.run (steps ++ [.drain])).stream = (initial.run steps).stream := by
    rw [run, List.foldl_concat]
    exact consistent.drain.2
  have stream_eq : (initial.run (steps ++ [.drain])).stream =
      Event.others (initial.run (steps ++ [.drain])).drained := by
    rw [run, List.foldl_concat]
    exact List.append_nil _
  refine ⟨Event.stamped_of_others consistent.stamped.of_append, ?_, fun button => ?_⟩
  · rw [← Event.filter_isClick_others, ← stream_eq, emptied]
    exact clicks_eq
  · rw [holds_eq]
    cases button <;> rfl

end Intake
end Docking

import Docking.Event.Queue
import Mathlib.Data.List.DropRight
import Mathlib.Data.List.SplitBy

namespace Docking

/-! What comes out of a queue depends only on what went in since it was last emptied. Of each
run of moves the last one is left, and window-level events overtake all others. -/

namespace Event

def yieldsTo (event next : Event) : Bool := event.isMotion && next.isMotion

/-- Each longest run of moves gives way to its last move. -/
def coalesce (events : List Event) : List Event :=
  (events.splitBy yieldsTo).filterMap List.getLast?

def others (events : List Event) : List Event :=
  events.filter fun event => !event.isWindowLevel

def deliver (events : List Event) : List Event :=
  events.filter isWindowLevel ++ coalesce (others events)

variable {front back moves events : List Event} {event : Event}

@[simp] theorem coalesce_singleton (event : Event) : coalesce [event] = [event] := rfl

theorem coalesce_append
    (apart : ∀ last ∈ front.getLast?, ∀ next ∈ back.head?, yieldsTo last next = false) :
    coalesce (front ++ back) = coalesce front ++ coalesce back := by
  simp only [coalesce, List.splitBy_append apart, List.filterMap_append]

theorem coalesce_of_moves (nonempty : moves ≠ [])
    (moving : ∀ move ∈ moves, move.isMotion = true) :
    coalesce moves = [moves.getLast nonempty] := by
  have chain : moves.IsChain fun event next => yieldsTo event next = true := by
    refine List.Pairwise.isChain (List.pairwise_of_forall_mem_list ?_)
    intro event event_mem next next_mem
    simp [yieldsTo, moving event event_mem, moving next next_mem]
  simp [coalesce, List.splitBy_of_isChain nonempty chain, List.getLast?_eq_some_getLast nonempty]

theorem coalesce_append_moves (rests : ∀ last ∈ front.getLast?, last.isMotion = false)
    (nonempty : moves ≠ []) (moving : ∀ move ∈ moves, move.isMotion = true) :
    coalesce (front ++ moves) = coalesce front ++ [moves.getLast nonempty] := by
  rw [coalesce_append, coalesce_of_moves nonempty moving]
  intro last last_mem next _
  simp [yieldsTo, rests last last_mem]

theorem coalesce_concat_of_yieldsTo (moves_last : events.getLast?.any isMotion = true)
    (moves_next : event.isMotion = true) :
    coalesce (events ++ [event]) = (coalesce events).dropLast ++ [event] := by
  -- all that counts is the run of moves at the end
  have split := List.rdropWhile_append_rtakeWhile (p := isMotion) (l := events)
  generalize front_eq : events.rdropWhile isMotion = front at split
  generalize moves_eq : events.rtakeWhile isMotion = moves at split
  have moving : ∀ move ∈ moves, move.isMotion = true := by
    intro move member
    rw [← moves_eq] at member
    exact List.mem_rtakeWhile_imp member
  have rests : ∀ last ∈ front.getLast?, last.isMotion = false := by
    intro last member
    obtain ⟨nonempty, rfl⟩ := List.mem_getLast?_eq_getLast member
    subst front_eq
    simpa using List.rdropWhile_last_not isMotion events nonempty
  have nonempty : moves ≠ [] := by
    rintro rfl
    rw [List.append_nil] at split
    subst split
    cases last_eq : front.getLast? with
    | none => simp [last_eq] at moves_last
    | some last => simp [last_eq, rests last last_eq] at moves_last
  have extended : ∀ move ∈ moves ++ [event], move.isMotion = true := by
    intro move member
    rcases List.mem_append.mp member with earlier | last
    · exact moving move earlier
    · rw [List.mem_singleton.mp last, moves_next]
  rw [← split, List.append_assoc, coalesce_append_moves rests (by simp) extended,
    coalesce_append_moves rests nonempty moving]
  simp

theorem coalesce_concat_of_not_yieldsTo
    (apart : (event.isMotion && events.getLast?.any isMotion) = false) :
    coalesce (events ++ [event]) = coalesce events ++ [event] := by
  rw [coalesce_append, coalesce_singleton]
  intro last last_eq next next_eq
  cases Option.mem_some.mp next_eq
  rw [Option.mem_def.mp last_eq] at apart
  simpa [yieldsTo, Bool.and_comm] using apart

theorem getLast?_coalesce (events : List Event) :
    (coalesce events).getLast? = events.getLast? := by
  induction events using List.reverseRecOn with
  | nil => rfl
  | append_singleton events event _ =>
      cases apart : event.isMotion && events.getLast?.any isMotion with
      | false => simp [coalesce_concat_of_not_yieldsTo apart]
      | true =>
          rw [Bool.and_eq_true] at apart
          simp [coalesce_concat_of_yieldsTo apart.2 apart.1]

/-- Nothing that is no move gives way, and no move gives way across it. -/
theorem coalesce_append_cons (rests : event.isMotion = false) (front back : List Event) :
    coalesce (front ++ event :: back) = coalesce front ++ event :: coalesce back := by
  have beside (back : List Event) :
      coalesce (event :: back) = event :: coalesce back := by
    change coalesce ([event] ++ back) = coalesce [event] ++ coalesce back
    apply coalesce_append
    simp [yieldsTo, rests]
  rw [coalesce_append, beside]
  simp [yieldsTo, rests]

theorem filter_coalesce (events : List Event) :
    (coalesce events).filter (fun event => !event.isMotion) =
      events.filter fun event => !event.isMotion := by
  induction events using List.reverseRecOn with
  | nil => rfl
  | append_singleton events event induction =>
      cases apart : event.isMotion && events.getLast?.any isMotion with
      | false =>
          simp only [coalesce_concat_of_not_yieldsTo apart, List.filter_append, induction]
      | true =>
          rw [Bool.and_eq_true, ← getLast?_coalesce] at apart
          -- what is taken off the end is a move
          have dropped : ((coalesce events).dropLast).filter (fun event => !event.isMotion) =
              (coalesce events).filter fun event => !event.isMotion := by
            cases last_eq : (coalesce events).getLast? with
            | none => simp [last_eq] at apart
            | some last =>
                obtain ⟨front, front_eq⟩ := List.getLast?_eq_some_iff.mp last_eq
                have moving : last.isMotion = true := by simpa [last_eq] using apart.2
                simp [front_eq, moving]
          rw [coalesce_concat_of_yieldsTo (getLast?_coalesce events ▸ apart.2) apart.1]
          simp only [List.filter_append, dropped, induction]

theorem mem_of_mem_coalesce (member : event ∈ coalesce events) : event ∈ events := by
  obtain ⟨run, run_mem, last_eq⟩ := List.mem_filterMap.mp member
  rw [← List.flatten_splitBy yieldsTo events]
  exact List.mem_flatten.mpr ⟨run, run_mem, List.mem_of_getLast? last_eq⟩

theorem coalesce_eq_nil_iff : coalesce events = [] ↔ events = [] := by
  rw [← List.getLast?_eq_none_iff, getLast?_coalesce, List.getLast?_eq_none_iff]

theorem deliver_eq_nil_iff : deliver events = [] ↔ events = [] := by
  rw [deliver, List.append_eq_nil_iff, coalesce_eq_nil_iff, others, List.filter_eq_nil_iff,
    List.filter_eq_nil_iff, List.eq_nil_iff_forall_not_mem]
  constructor
  · rintro ⟨noneUrgent, noneOther⟩ event member
    have ordinary := noneUrgent event member
    exact noneOther event member (by simpa using ordinary)
  · intro none
    exact ⟨fun event member => absurd member (none event),
      fun event member => absurd member (none event)⟩

theorem filter_isWindowLevel_deliver (events : List Event) :
    (deliver events).filter isWindowLevel = events.filter isWindowLevel := by
  have ordinary : (coalesce (others events)).filter isWindowLevel = [] := by
    rw [List.filter_eq_nil_iff]
    intro event member
    simpa using (List.mem_filter.mp (mem_of_mem_coalesce member)).2
  simp [deliver, ordinary]

theorem filter_deliver (events : List Event) :
    (deliver events).filter (fun event => !event.isWindowLevel && !event.isMotion) =
      events.filter fun event => !event.isWindowLevel && !event.isMotion := by
  have ordinary : ∀ event ∈ coalesce (others events), event.isWindowLevel = false := by
    intro event member
    simpa using (List.mem_filter.mp (mem_of_mem_coalesce member)).2
  have resting : (coalesce (others events)).filter
      (fun event => !event.isWindowLevel && !event.isMotion) =
        (others events).filter fun event => !event.isMotion := by
    rw [← filter_coalesce]
    refine List.filter_congr fun event member => ?_
    rw [ordinary event member, Bool.not_false, Bool.true_and]
  have urgent : (events.filter isWindowLevel).filter
      (fun event => !event.isWindowLevel && !event.isMotion) = [] := by
    simp +contextual [List.filter_eq_nil_iff]
  rw [deliver, List.filter_append, urgent, resting, others, List.filter_filter]
  simp only [List.nil_append, Bool.and_comm]

end Event

namespace EventQueue

inductive Call where
  | push (event : Event)
  | drain
deriving DecidableEq

def Call.event? : Call → Option Event
  | push event => some event
  | drain => none

def obey (queue : EventQueue) : Call → EventQueue
  | .push event => queue.push event
  | .drain => queue.drain.1

def after (calls : List Call) : EventQueue := calls.foldl obey empty

def pushed (calls : List Call) : List Event := calls.filterMap Call.event?

def sinceDrain (calls : List Call) : List Event :=
  pushed (calls.rtakeWhile fun call => call ≠ .drain)

/-- The queue stands for events that were pushed and not yet handed out. -/
structure Holds (queue : EventQueue) (events : List Event) : Prop where
  urgent_eq : queue.urgent = events.filter Event.isWindowLevel
  pending_eq : queue.pending = Event.coalesce (Event.others events)
  received_eq : queue.received =
    queue.processed + queue.coalesced + (queue.urgent.length + queue.pending.length)

variable {queue : EventQueue} {events : List Event}

theorem holds_empty : empty.Holds [] := ⟨rfl, rfl, rfl⟩

theorem Holds.drain (holds : queue.Holds events) : queue.drain.1.Holds [] where
  urgent_eq := rfl
  pending_eq := rfl
  received_eq := by
    have received_eq := holds.received_eq
    simp only [EventQueue.drain, List.length_append, List.length_nil]
    omega

theorem endsInMotion_eq (queue : EventQueue) :
    queue.endsInMotion = queue.pending.getLast?.any Event.isMotion := by
  unfold endsInMotion
  cases queue.pending.getLast? with
  | none => rfl
  | some last => rfl

theorem Holds.push (holds : queue.Holds events) (event : Event) :
    (queue.push event).Holds (events ++ [event]) := by
  obtain ⟨urgent_eq, pending_eq, received_eq⟩ := holds
  cases level : event.isWindowLevel with
  | true =>
      refine ⟨?_, ?_, ?_⟩
      · simp [EventQueue.push, level, urgent_eq]
      · simp [EventQueue.push, level, pending_eq, Event.others]
      · simp only [EventQueue.push, level, if_true, List.length_append, List.length_singleton]
        omega
  | false =>
      have others_eq : Event.others (events ++ [event]) = Event.others events ++ [event] := by
        simp [Event.others, level]
      have ends_eq : queue.endsInMotion = (Event.others events).getLast?.any Event.isMotion := by
        rw [endsInMotion_eq, pending_eq, Event.getLast?_coalesce]
      cases follows : event.isMotion && queue.endsInMotion with
      | true =>
          have both := Bool.and_eq_true _ _ ▸ follows
          have nonempty : queue.pending ≠ [] := by
            intro pending_nil
            simp [endsInMotion_eq, pending_nil] at both
          have positive := List.length_pos_iff.mpr nonempty
          refine ⟨?_, ?_, ?_⟩
          · simp [EventQueue.push, level, follows, urgent_eq]
          · rw [others_eq, Event.coalesce_concat_of_yieldsTo (ends_eq ▸ both.2) both.1,
              ← pending_eq]
            simp [EventQueue.push, level, follows]
          · simp only [EventQueue.push, level, follows, if_true, List.length_append,
              List.length_dropLast, List.length_singleton, Bool.false_eq_true, if_false]
            omega
      | false =>
          refine ⟨?_, ?_, ?_⟩
          · simp [EventQueue.push, level, follows, urgent_eq]
          · rw [others_eq, Event.coalesce_concat_of_not_yieldsTo (ends_eq ▸ follows),
              ← pending_eq]
            simp [EventQueue.push, level, follows]
          · simp only [EventQueue.push, level, follows, List.length_append,
              List.length_singleton, Bool.false_eq_true, if_false]
            omega

theorem holds_after (calls : List Call) : (after calls).Holds (sinceDrain calls) := by
  induction calls using List.reverseRecOn with
  | nil => exact holds_empty
  | append_singleton calls call induction =>
      have step : after (calls ++ [call]) = (after calls).obey call := by
        rw [after, List.foldl_append]
        rfl
      rw [step]
      cases call with
      | drain =>
          have none_since : sinceDrain (calls ++ [.drain]) = [] := by simp [sinceDrain, pushed]
          rw [none_since]
          exact induction.drain
      | push event =>
          have one_more : sinceDrain (calls ++ [.push event]) = sinceDrain calls ++ [event] := by
            simp [sinceDrain, pushed, Call.event?]
          rw [one_more]
          exact induction.push event

theorem received_after (calls : List Call) : (after calls).received = (pushed calls).length := by
  induction calls using List.reverseRecOn with
  | nil => rfl
  | append_singleton calls call induction =>
      have received_push (queue : EventQueue) (event : Event) :
          (queue.push event).received = queue.received + 1 := by
        rw [EventQueue.push]
        split
        · rfl
        · split <;> rfl
      rw [after, List.foldl_append, pushed, List.filterMap_append, List.length_append,
        ← pushed, ← induction]
      cases call with
      | drain => rfl
      | push event => exact received_push _ event

theorem isEmpty_iff : queue.isEmpty = true ↔ queue.drain.2 = [] := by
  simp [isEmpty, EventQueue.drain]

/-- What a queue owes to the calls that were made on it. -/
structure Keeps (queue : EventQueue) (calls : List Call) : Prop where
  drain_eq : queue.drain.2 = Event.deliver (sinceDrain calls)
  windowLevel_eq :
    queue.drain.2.filter Event.isWindowLevel = (sinceDrain calls).filter Event.isWindowLevel
  rest_eq :
    queue.drain.2.filter (fun event => !event.isWindowLevel && !event.isMotion) =
      (sinceDrain calls).filter fun event => !event.isWindowLevel && !event.isMotion
  /-- Moves on both sides of another event stay apart. -/
  pending_eq : ∀ front event back,
    Event.others (sinceDrain calls) = front ++ event :: back → event.isMotion = false →
      queue.pending = Event.coalesce front ++ event :: Event.coalesce back
  drain_eq_nil_iff : queue.drain.2 = [] ↔ sinceDrain calls = []
  isEmpty_iff : queue.isEmpty = true ↔ queue.drain.2 = []
  balance : queue.received =
    queue.processed + queue.coalesced + (queue.urgent.length + queue.pending.length)
  received_eq : queue.received = (pushed calls).length

theorem keeps_after (calls : List Call) : (after calls).Keeps calls := by
  have holds := holds_after calls
  have drain_eq : (after calls).drain.2 = Event.deliver (sinceDrain calls) := by
    rw [EventQueue.drain, holds.urgent_eq, holds.pending_eq, Event.deliver]
  refine ⟨drain_eq, ?_, ?_, ?_, ?_, isEmpty_iff, holds.received_eq, received_after calls⟩
  · rw [drain_eq, Event.filter_isWindowLevel_deliver]
  · rw [drain_eq, Event.filter_deliver]
  · intro front event back split rests
    rw [holds.pending_eq, split, Event.coalesce_append_cons rests]
  · rw [drain_eq, Event.deliver_eq_nil_iff]

end EventQueue
end Docking

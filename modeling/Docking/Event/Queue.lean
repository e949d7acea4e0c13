import Docking.Event.Basic

namespace Docking

/-! A queue of events between two frames. Window-level events come out first; a pointer
move that directly follows another replaces it. -/

structure EventQueue where
  pending : List Event
  urgent : List Event
  received : Nat
  processed : Nat
  coalesced : Nat
deriving DecidableEq, Inhabited

namespace EventQueue

def empty : EventQueue := ⟨[], [], 0, 0, 0⟩

def endsInMotion (queue : EventQueue) : Bool :=
  match queue.pending.getLast? with
  | some last => last.isMotion
  | none => false

def push (queue : EventQueue) (event : Event) : EventQueue :=
  let counted := { queue with received := queue.received + 1 }
  if event.isWindowLevel then
    { counted with urgent := queue.urgent ++ [event] }
  else if event.isMotion && queue.endsInMotion then
    { counted with
      pending := queue.pending.dropLast ++ [event]
      coalesced := queue.coalesced + 1 }
  else
    { counted with pending := queue.pending ++ [event] }

def drain (queue : EventQueue) : EventQueue × List Event :=
  let events := queue.urgent ++ queue.pending
  ({ queue with
      pending := []
      urgent := []
      processed := queue.processed + events.length },
    events)

def isEmpty (queue : EventQueue) : Bool :=
  queue.urgent.isEmpty && queue.pending.isEmpty

def resetCounts (queue : EventQueue) : EventQueue :=
  { queue with received := 0, processed := 0, coalesced := 0 }

end EventQueue
end Docking

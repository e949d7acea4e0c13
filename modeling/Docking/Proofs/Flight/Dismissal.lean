import Docking.Proofs.Flight.Turn

namespace Docking.Flight

/-! What destructions do to the flight itself. It ends if the dockable in flight is among the
destroyed nodes, and then the target that it was over is told, if that one lives on. -/

variable {flight : Flight} {node : NodeId}

theorem dismiss_of_apart (gone : List NodeId) (apart : flight.inFlight ≠ some node) :
    dismiss gone flight node = flight.strike node := by
  unfold dismiss
  split
  · next unknown =>
      obtain ⟨standing?, inFlight, outbox⟩ := flight
      simp only [strike, mk.injEq, and_self, and_true]
      funext other
      split
      · next same =>
          rw [same]
          exact unknown
      · rfl
  · rw [if_neg apart]

theorem foldl_dismiss_of_apart (gone nodes : List NodeId)
    (apart : ∀ node ∈ nodes, flight.inFlight ≠ some node) :
    (nodes.foldl (dismiss gone) flight).inFlight = flight.inFlight ∧
      (nodes.foldl (dismiss gone) flight).outbox = flight.outbox := by
  induction nodes generalizing flight with
  | nil => exact ⟨rfl, rfl⟩
  | cons head rest induction =>
      rw [List.foldl_cons, dismiss_of_apart gone (apart head List.mem_cons_self)]
      exact @induction (flight.strike head) fun node later =>
        apart node (List.mem_cons_of_mem _ later)

/-- While none is in flight, destructions end no flight and no target is told. -/
theorem forget_of_grounded (gone : List NodeId) (grounded : flight.inFlight = none) :
    (flight.forget gone).inFlight = none ∧ (flight.forget gone).outbox = flight.outbox := by
  have dismissed := foldl_dismiss_of_apart gone gone fun node _ flying =>
    nomatch grounded.symm.trans flying
  rw [grounded] at dismissed
  exact dismissed

/-- What the target under a destroyed dockable is told, unless it is destroyed as well. -/
def parting (gone : List NodeId) (active : Option NodeId) : List Notice :=
  ((active.filter (· ∉ gone)).map fun target => ⟨target, .dockLeave⟩).toList

/-- What is told when some nodes go, the dockable in flight among them perhaps. -/
def farewell (flight : Flight) (gone : List NodeId) : List Notice :=
  parting gone ((flight.inFlight.filter (· ∈ gone)).bind flight.activeTarget?)

theorem dismiss_of_flying (gone : List NodeId) {standing : Standing}
    (stands : flight.standing? node = some standing) (flying : flight.inFlight = some node) :
    (dismiss gone flight node).inFlight = none ∧
      (dismiss gone flight node).outbox =
        flight.outbox ++ parting gone standing.activeTarget := by
  unfold dismiss
  rw [stands]
  dsimp only
  rw [if_pos flying]
  cases standing.activeTarget with
  | none => exact ⟨rfl, (List.append_nil _).symm⟩
  | some target =>
      by_cases lost : target ∈ gone
      · simp [lost, strike, parting, Option.filter_some]
      · simp [lost, strike, post, parting, Option.filter_some]

/-- Of all that are dismissed, only the one in flight counts. -/
theorem foldl_dismiss_of_flying (gone : List NodeId) {nodes : List NodeId} {standing : Standing}
    (stands : flight.standing? node = some standing) (flying : flight.inFlight = some node)
    (goes : node ∈ nodes) :
    (nodes.foldl (dismiss gone) flight).inFlight = none ∧
      (nodes.foldl (dismiss gone) flight).outbox =
        flight.outbox ++ parting gone standing.activeTarget := by
  induction nodes generalizing flight with
  | nil => cases goes
  | cons head rest induction =>
      rw [List.foldl_cons]
      by_cases same : node = head
      · subst same
        obtain ⟨landed, told⟩ := dismiss_of_flying gone stands flying
        obtain ⟨stillLanded, noMore⟩ := foldl_dismiss_of_apart gone rest
          fun other _ airborne => nomatch landed.symm.trans airborne
        exact ⟨stillLanded.trans landed, noMore.trans told⟩
      · have apart : flight.inFlight ≠ some head := fun airborne =>
          same (Option.some.inj (flying.symm.trans airborne))
        rw [dismiss_of_apart gone apart]
        exact @induction (flight.strike head) ((if_neg same).trans stands) flying
          ((List.mem_cons.mp goes).resolve_left same)

section Forget

variable (registered : ∀ node, flight.inFlight = some node →
  ∃ standing, flight.standing? node = some standing) (gone : List NodeId)
include registered

theorem inFlight_forget : (flight.forget gone).inFlight = flight.inFlight.filter (· ∉ gone) := by
  cases flying : flight.inFlight with
  | none => exact (forget_of_grounded gone flying).1
  | some node =>
      by_cases goes : node ∈ gone
      · obtain ⟨standing, stands⟩ := registered node flying
        rw [Option.filter_some_neg (by simpa using goes)]
        exact (foldl_dismiss_of_flying gone stands flying goes).1
      · rw [Option.filter_some_pos (by simpa using goes), ← flying]
        exact (foldl_dismiss_of_apart gone gone fun other listed airborne =>
          goes (Option.some.inj (flying.symm.trans airborne) ▸ listed)).1

theorem outbox_forget : (flight.forget gone).outbox = flight.outbox ++ flight.farewell gone := by
  unfold farewell
  cases flying : flight.inFlight with
  | none =>
      rw [(forget_of_grounded gone flying).2]
      exact (List.append_nil _).symm
  | some node =>
      by_cases goes : node ∈ gone
      · obtain ⟨standing, stands⟩ := registered node flying
        rw [Option.filter_some_pos (by simpa using goes), Option.bind_some, activeTarget?, stands,
          Option.bind_some]
        exact (foldl_dismiss_of_flying gone stands flying goes).2
      · rw [Option.filter_some_neg (by simpa using goes)]
        refine Eq.trans ?_ (List.append_nil _).symm
        exact (foldl_dismiss_of_apart gone gone fun other listed airborne =>
          goes (Option.some.inj (flying.symm.trans airborne) ▸ listed)).2

end Forget

end Docking.Flight

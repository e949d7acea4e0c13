import Docking.Proofs.Flight.Leave

namespace Docking

/-! Where targets are nested, a move of the pointer that all of them are told of leaves the
dockable with the innermost one that takes it. The order in which they are told matters in one
case only: a target is passed over when it is told before the target nested in it that the
dockable is about to leave. -/

namespace Tree

variable {tree : Tree}

/-- A target that takes the dockable gets it, unless it is aimed at a nested one; a target that
does not take it lets it go. -/
def aimAfter (tree : Tree) (admits : NodeId → Bool) (aim : Option NodeId) (target : NodeId) :
    Option NodeId :=
  if admits target then
    if aim = some target ∨ ∃ current, aim = some current ∧ tree.isAncestor target current = true
    then aim
    else some target
  else if aim = some target then none
  else aim

/-- Whether the target is told before the one nested in it that `aim` names, which does not
take the dockable any more. -/
def passesOver (tree : Tree) (admits : NodeId → Bool) (aim : Option NodeId)
    (order : List NodeId) (target : NodeId) : Bool :=
  aim.any fun left =>
    !admits left && tree.isAncestor target left && order.idxOf target < order.idxOf left

/-- The candidate that all other candidates lie around, or none where there are none. -/
def Innermost (tree : Tree) (candidate : NodeId → Prop) : Option NodeId → Prop
  | some target =>
      candidate target ∧ ∀ other, candidate other → other = target ∨ tree.Above other target
  | none => ∀ target, ¬ candidate target

namespace Innermost

variable {first second : NodeId → Prop} {aim : Option NodeId}

theorem congr (wellFormed : tree.WellFormed) (innermost : tree.Innermost first aim)
    (sound : ∀ node, first node → second node ∨ ∃ lower, first lower ∧ tree.Above node lower)
    (complete : ∀ node, second node → first node ∨ ∃ lower, first lower ∧ tree.Above node lower) :
    tree.Innermost second aim := by
  cases aim with
  | none =>
      intro node candidate
      rcases complete node candidate with same | ⟨lower, below, _⟩
      · exact innermost node same
      · exact innermost lower below
  | some target =>
      obtain ⟨candidate, around⟩ := innermost
      refine ⟨(sound target candidate).resolve_right ?_, fun node other => ?_⟩
      · rintro ⟨lower, below, above⟩
        rcases around lower below with same | back
        · exact wellFormed.ne_of_above above same.symm
        · exact wellFormed.acyclic target (above.trans back)
      · rcases complete node other with same | ⟨lower, below, above⟩
        · exact around node same
        · rcases around lower below with rfl | onward
          · exact .inr above
          · exact .inr (above.trans onward)

theorem of_iff (innermost : tree.Innermost first aim)
    (same : ∀ node, first node ↔ second node) : tree.Innermost second aim := by
  have equal : first = second := funext fun node => propext (same node)
  rw [← equal]
  exact innermost

theorem getLast?_filter (wellFormed : tree.WellFormed) {line : List NodeId}
    {keep : NodeId → Bool} (nested : line.Pairwise tree.Above)
    (innermost : tree.Innermost (fun node => node ∈ line ∧ keep node = true) aim) :
    (line.filter keep).getLast? = aim := by
  cases last : (line.filter keep).getLast? with
  | none =>
      have nobody := List.getLast?_eq_none_iff.mp last
      cases aim with
      | none => rfl
      | some target =>
          have member := List.mem_filter.mpr innermost.1
          rw [nobody] at member
          cases member
  | some deepest =>
      obtain ⟨outer, kept⟩ := List.getLast?_eq_some_iff.mp last
      have member : deepest ∈ line.filter keep := kept ▸ List.mem_concat_self
      cases aim with
      | none => exact absurd (List.mem_filter.mp member) (innermost deepest)
      | some target =>
          obtain ⟨candidate, around⟩ := innermost
          have listed := List.mem_filter.mpr candidate
          have ordered := nested.filter keep
          rw [kept] at listed ordered
          rw [List.mem_append, List.mem_singleton] at listed
          rcases listed with outside | same
          · have above := (List.pairwise_append.mp ordered).2.2 target outside deepest
              (List.mem_singleton.mpr rfl)
            rcases around deepest (List.mem_filter.mp member) with same | back
            · exact congrArg some same
            · exact absurd (above.trans back) (wellFormed.acyclic target)
          · exact congrArg some same.symm

end Innermost

section Broadcast

variable {admits : NodeId → Bool} {aim : Option NodeId} {head target left : NodeId}
  {order : List NodeId}

theorem passesOver_iff (wellFormed : tree.WellFormed) :
    tree.passesOver admits aim order target = true ↔
      ∃ left, aim = some left ∧ admits left = false ∧ tree.Above target left ∧
        order.idxOf target < order.idxOf left := by
  rw [passesOver, Option.any_eq_true]
  simp only [Bool.and_eq_true, Bool.not_eq_true', decide_eq_true_eq, wellFormed.isAncestor_iff,
    and_assoc]

theorem passesOver_head_iff (wellFormed : tree.WellFormed) :
    tree.passesOver admits aim (head :: order) head = true ↔
      ∃ left, aim = some left ∧ admits left = false ∧ tree.Above head left := by
  rw [passesOver_iff wellFormed]
  refine exists_congr fun left => and_congr_right fun _ => and_congr_right fun _ =>
    and_iff_left_of_imp fun above => ?_
  rw [List.idxOf_cons_self, List.idxOf_cons_ne order (wellFormed.ne_of_above above)]
  exact Nat.succ_pos _

theorem passesOver_cons (wellFormed : tree.WellFormed) (elsewhere : aim ≠ some head)
    (different : head ≠ target) :
    tree.passesOver admits aim (head :: order) target =
      tree.passesOver admits aim order target := by
  rw [Bool.eq_iff_iff, passesOver_iff wellFormed, passesOver_iff wellFormed]
  refine exists_congr fun left => and_congr_right fun aims => and_congr_right fun _ =>
    and_congr_right fun _ => ?_
  have apart : head ≠ left := fun same => elsewhere (same ▸ aims)
  rw [List.idxOf_cons_ne order different, List.idxOf_cons_ne order apart]
  exact Nat.succ_lt_succ_iff

theorem passesOver_of_admits (admitted : admits left = true) :
    tree.passesOver admits (some left) order target = false := by
  rw [passesOver, Option.any_some, admitted]
  rfl

theorem passesOver_cons_self :
    tree.passesOver admits (some head) (head :: order) target = false := by
  rw [passesOver, Option.any_some, List.idxOf_cons_self]
  simp only [Nat.not_lt_zero, decide_false, Bool.and_false]

/-- What competes for the dockable while the targets in `order` are told: those that take it and
are not passed over, and the one that has it until it is told itself. -/
def Competes (tree : Tree) (admits : NodeId → Bool) (aim : Option NodeId)
    (order : List NodeId) (target : NodeId) : Prop :=
  (target ∈ order ∧ admits target = true ∧ tree.passesOver admits aim order target = false) ∨
    (aim = some target ∧ target ∉ order)

theorem competes_none_iff :
    tree.Competes admits none order target ↔ target ∈ order ∧ admits target = true := by
  constructor
  · rintro (⟨waits, takes, _⟩ | ⟨impossible, _⟩)
    · exact ⟨waits, takes⟩
    · cases impossible
  · rintro ⟨waits, takes⟩
    exact .inl ⟨waits, takes, rfl⟩

theorem competes_iff_of_admits (admitted : admits left = true) :
    tree.Competes admits (some left) order target ↔
      target ∈ left :: order ∧ admits target = true := by
  constructor
  · rintro (⟨waits, takes, _⟩ | ⟨aims, _⟩)
    · exact ⟨List.mem_cons_of_mem _ waits, takes⟩
    · cases aims
      exact ⟨List.mem_cons_self, admitted⟩
  · rintro ⟨listed, takes⟩
    by_cases waits : target ∈ order
    · exact .inl ⟨waits, takes, passesOver_of_admits admitted⟩
    · have same := (List.mem_cons.mp listed).resolve_right waits
      exact .inr ⟨congrArg some same.symm, waits⟩

theorem competes_cons_self_iff :
    tree.Competes admits (some head) (head :: order) target ↔
      target ∈ head :: order ∧ admits target = true := by
  constructor
  · rintro (⟨told, takes, _⟩ | ⟨aims, untold⟩)
    · exact ⟨told, takes⟩
    · cases aims
      exact absurd List.mem_cons_self untold
  · rintro ⟨told, takes⟩
    exact .inl ⟨told, takes, passesOver_cons_self⟩

theorem competes_cons_iff (wellFormed : tree.WellFormed) (fresh : head ∉ order)
    (elsewhere : aim ≠ some head) :
    tree.Competes admits aim (head :: order) target ↔
      (target = head ∧ admits head = true ∧
        tree.passesOver admits aim (head :: order) head = false) ∨
      tree.Competes admits aim order target := by
  have later (waits : target ∈ order) :
      tree.passesOver admits aim (head :: order) target =
        tree.passesOver admits aim order target :=
    passesOver_cons wellFormed elsewhere fun same => fresh (same ▸ waits)
  constructor
  · rintro (⟨told, takes, heeded⟩ | ⟨aims, untold⟩)
    · rcases List.mem_cons.mp told with rfl | waits
      · exact .inl ⟨rfl, takes, heeded⟩
      · exact .inr (.inl ⟨waits, takes, (later waits).symm.trans heeded⟩)
    · exact .inr (.inr ⟨aims, fun waits => untold (List.mem_cons_of_mem _ waits)⟩)
  · rintro (⟨rfl, takes, heeded⟩ | ⟨waits, takes, heeded⟩ | ⟨aims, untold⟩)
    · exact .inl ⟨List.mem_cons_self, takes, heeded⟩
    · exact .inl ⟨List.mem_cons_of_mem _ waits, takes, (later waits).trans heeded⟩
    · refine .inr ⟨aims, List.not_mem_cons_of_ne_of_not_mem (fun same => ?_) untold⟩
      exact elsewhere (same ▸ aims)

/-! What one target that is told first changes. -/

section Step

variable {result : Option NodeId}

theorem innermost_of_kept (admitted : admits head = true)
    (innermost : tree.Innermost (tree.Competes admits (some head) order) result) :
    tree.Innermost (tree.Competes admits (some head) (head :: order)) result := by
  refine innermost.of_iff fun target => ?_
  rw [competes_iff_of_admits admitted, competes_cons_self_iff]

variable (wellFormed : tree.WellFormed)
include wellFormed

theorem innermost_of_taken (admitted : admits head = true)
    (within : ∀ left, aim = some left → tree.Above left head)
    (innermost : tree.Innermost (tree.Competes admits (some head) order) result) :
    tree.Innermost (tree.Competes admits aim (head :: order)) result := by
  have gets : tree.Competes admits (some head) order head :=
    (competes_iff_of_admits admitted).mpr ⟨List.mem_cons_self, admitted⟩
  refine innermost.congr wellFormed (fun target competes => ?_) fun target competes => ?_
  · obtain ⟨told, takes⟩ := (competes_iff_of_admits admitted).mp competes
    -- whatever is passed over lies around the old aim, so around the new one too
    cases passed : tree.passesOver admits aim (head :: order) target with
    | true =>
        obtain ⟨left, aims, _, above, _⟩ := (passesOver_iff wellFormed).mp passed
        exact .inr ⟨head, gets, above.trans (within left aims)⟩
    | false => exact .inl (.inl ⟨told, takes, passed⟩)
  · rcases competes with ⟨told, takes, _⟩ | ⟨aims, _⟩
    · exact .inl ((competes_iff_of_admits admitted).mpr ⟨told, takes⟩)
    · exact .inr ⟨head, gets, within target aims⟩

variable (fresh : head ∉ order)
include fresh

theorem innermost_of_outer (above : tree.Above head left)
    (innermost : tree.Innermost (tree.Competes admits (some left) order) result) :
    tree.Innermost (tree.Competes admits (some left) (head :: order)) result := by
  have elsewhere : some left ≠ some head := fun same =>
    wellFormed.ne_of_above above (Option.some.inj same).symm
  refine innermost.congr wellFormed (fun target competes => .inl ?_) fun target competes => ?_
  · exact (competes_cons_iff wellFormed fresh elsewhere).mpr (.inr competes)
  · rcases (competes_cons_iff wellFormed fresh elsewhere).mp competes with
      ⟨rfl, _, heeded⟩ | competed
    · refine .inr ⟨left, ?_, above⟩
      have keeps : admits left = true := by
        by_contra refuses
        have passed : tree.passesOver admits (some left) (target :: order) target = true :=
          (passesOver_head_iff wellFormed).mpr
            ⟨left, rfl, Bool.eq_false_iff.mpr refuses, above⟩
        rw [heeded] at passed
        cases passed
      exact (competes_iff_of_admits keeps).mpr ⟨List.mem_cons_self, keeps⟩
    · exact .inl competed

theorem innermost_of_refused (refused : admits head = false)
    (innermost : tree.Innermost
      (tree.Competes admits (if aim = some head then none else aim) order) result) :
    tree.Innermost (tree.Competes admits aim (head :: order)) result := by
  refine innermost.of_iff fun target => ?_
  split
  · next aims =>
      rw [aims, competes_none_iff, competes_cons_self_iff, List.mem_cons, or_and_right]
      refine (or_iff_right ?_).symm
      rintro ⟨same, takes⟩
      rw [same, refused] at takes
      cases takes
  · next elsewhere =>
      rw [competes_cons_iff wellFormed fresh elsewhere, refused]
      simp only [Bool.false_eq_true, false_and, and_false, false_or]

end Step

def InLine (tree : Tree) (nodes : List NodeId) : Prop :=
  ∀ first ∈ nodes, ∀ second ∈ nodes,
    first = second ∨ tree.Above first second ∨ tree.Above second first

theorem inLine_of_pairwise {line : List NodeId} (nested : line.Pairwise tree.Above) :
    tree.InLine line := by
  induction nested with
  | nil => exact fun first member => nomatch member
  | cons around _ induction =>
      intro first member second otherMember
      rcases List.mem_cons.mp member with rfl | inner
      · rcases List.mem_cons.mp otherMember with rfl | otherInner
        · exact .inl rfl
        · exact .inr (.inl (around second otherInner))
      · rcases List.mem_cons.mp otherMember with rfl | otherInner
        · exact .inr (.inr (around first inner))
        · exact induction first inner second otherInner

theorem mem_of_aimAfter {line : List NodeId} (begun : ∀ left, aim = some left → left ∈ line)
    (listed : target ∈ line) :
    ∀ left, tree.aimAfter admits aim target = some left → left ∈ line := by
  intro left aims
  rw [aimAfter] at aims
  split at aims
  · split at aims
    · exact begun left aims
    · cases aims
      exact listed
  · split at aims
    · cases aims
    · exact begun left aims

theorem above_of_takes (wellFormed : tree.WellFormed)
    (inLine : ∀ left, aim = some left →
      left = target ∨ tree.Above left target ∨ tree.Above target left)
    (takes : ¬ (aim = some target ∨
      ∃ current, aim = some current ∧ tree.isAncestor target current = true)) :
    ∀ left, aim = some left → tree.Above left target := by
  intro left aims
  rcases inLine left aims with same | inner | outer
  · exact absurd (.inl (same ▸ aims)) takes
  · exact inner
  · exact absurd (.inr ⟨left, aims, (wellFormed.isAncestor_iff target left).mpr outer⟩) takes

/-- When all have been told, the innermost of the competitors has the dockable. -/
theorem innermost_foldl_aimAfter (wellFormed : tree.WellFormed) {line : List NodeId}
    (inLine : tree.InLine line) (begun : ∀ left, aim = some left → left ∈ line)
    (listed : ∀ target ∈ order, target ∈ line) (once : order.Nodup) :
    tree.Innermost (tree.Competes admits aim order) (order.foldl (tree.aimAfter admits) aim) := by
  induction order generalizing aim with
  | nil =>
      cases aim with
      | none => rintro target (⟨waits, _⟩ | ⟨aims, _⟩) <;> contradiction
      | some left =>
          refine ⟨.inr ⟨rfl, List.not_mem_nil⟩, ?_⟩
          rintro target (⟨waits, _⟩ | ⟨aims, _⟩)
          · cases waits
          · exact .inl (Option.some.inj aims).symm
  | cons head order induction =>
      obtain ⟨fresh, rest⟩ := List.nodup_cons.mp once
      have here := listed head List.mem_cons_self
      have begunNext : ∀ left, tree.aimAfter admits aim head = some left → left ∈ line :=
        mem_of_aimAfter begun here
      have innermost := induction begunNext
        (fun target waits => listed target (List.mem_cons_of_mem _ waits)) rest
      rw [List.foldl_cons]
      generalize order.foldl (tree.aimAfter admits) (tree.aimAfter admits aim head) = result
        at innermost ⊢
      -- `Competes` for the rest, from the new aim, is turned into `Competes` for the whole
      rw [aimAfter] at innermost
      split at innermost
      · next admitted =>
          split at innermost
          · next keeps =>
              rcases keeps with rfl | ⟨left, rfl, above⟩
              · exact innermost_of_kept admitted innermost
              · rw [wellFormed.isAncestor_iff] at above
                exact innermost_of_outer wellFormed fresh above innermost
          · next takes =>
              refine innermost_of_taken wellFormed admitted ?_ innermost
              exact above_of_takes wellFormed
                (fun left aims => inLine left (begun left aims) head here) takes
      · next refused =>
          exact innermost_of_refused wellFormed fresh (Bool.eq_false_iff.mpr refused) innermost

theorem WellFormed.pairwise_above (wellFormed : tree.WellFormed) {line : List NodeId}
    (nested : line.IsChain fun upper lower => tree.isAncestor upper lower = true) :
    line.Pairwise tree.Above := by
  have transitive : Trans tree.Above tree.Above tree.Above := ⟨Above.trans⟩
  rw [← List.isChain_iff_pairwise]
  exact nested.imp fun upper lower => (wellFormed.isAncestor_iff upper lower).mp

/-- When all targets on a line have been told, the innermost that takes the dockable and was not
passed over has it. -/
theorem foldl_aimAfter_eq_getLast? (wellFormed : tree.WellFormed) {line : List NodeId}
    (above : line.Pairwise tree.Above) (begun : ∀ left, aim = some left → left ∈ line)
    (all : order.Perm line) :
    order.foldl (tree.aimAfter admits) aim =
      ((line.filter admits).filter fun target =>
        !tree.passesOver admits aim order target).getLast? := by
  have innermost : tree.Innermost (tree.Competes admits aim order)
      (order.foldl (tree.aimAfter admits) aim) :=
    innermost_foldl_aimAfter wellFormed (inLine_of_pairwise above) begun
      (fun target => all.mem_iff.mp) (all.nodup_iff.mpr (above.imp wellFormed.ne_of_above))
  rw [List.filter_filter]
  refine (Innermost.getLast?_filter wellFormed above
    (innermost.of_iff fun target => ⟨?_, ?_⟩)).symm
  · rintro (⟨told, takes, heeded⟩ | ⟨aims, untold⟩)
    · exact ⟨all.mem_iff.mp told, by simp only [takes, heeded, Bool.not_false, Bool.and_true]⟩
    · exact absurd (all.mem_iff.mpr (begun target aims)) untold
  · rintro ⟨member, keeps⟩
    rw [Bool.and_eq_true, Bool.not_eq_true'] at keeps
    exact .inl ⟨all.mem_iff.mpr member, keeps.2, keeps.1⟩

end Broadcast

end Tree

namespace Flight

variable {flight : Flight} {tree : Tree} {admits : NodeId → Bool} {node target : NodeId}

def hearMove (tree : Tree) (admits : NodeId → Bool) (node : NodeId) (flight : Flight)
    (target : NodeId) : Flight :=
  if admits target then
    if flight.aimed? = some target ∨
        ∃ current, flight.aimed? = some current ∧ tree.isAncestor target current = true
    then flight
    else flight.make (.hover node target)
  else flight.make (.leave target)

theorem inFlight_hearMove :
    (flight.hearMove tree admits node target).inFlight = flight.inFlight := by
  rw [hearMove]
  split
  · split
    · rfl
    · exact flight.inFlight_bidFarewell node
  · exact flight.inFlight_leave target

theorem aimed?_hearMove {standing : Standing} (flying : flight.inFlight = some node)
    (found : flight.standing? node = some standing) :
    (flight.hearMove tree admits node target).aimed? =
      tree.aimAfter admits flight.aimed? target := by
  rw [hearMove, Tree.aimAfter]
  split
  · split
    · rfl
    · exact aimed?_hover flying found
  · exact flight.aimed?_leave target

/-- What waits to be delivered tells of targets that were left for one nested in them, which
takes the dockable and has it now. -/
def LeftOuter (tree : Tree) (admits : NodeId → Bool) (flight : Flight) : Prop :=
  ∀ notice ∈ flight.outbox, ∃ left current, notice = ⟨left, .dockLeave⟩ ∧
    flight.aimed? = some current ∧ admits current = true ∧ tree.Above left current

theorem LeftOuter.hover {standing : Standing} (leftOuter : flight.LeftOuter tree admits)
    (flying : flight.inFlight = some node) (found : flight.standing? node = some standing)
    (admitted : admits target = true)
    (within : ∀ left, flight.aimed? = some left → tree.Above left target) :
    (flight.make (.hover node target)).LeftOuter tree admits := by
  intro notice waits
  have aims : (flight.make (.hover node target)).aimed? = some target :=
    aimed?_hover flying found
  rcases (Session.mem_outbox_hover flying target notice).mp waits with waited | ⟨left, aimed, rfl⟩
  · obtain ⟨left, current, rfl, aimed, _, above⟩ := leftOuter notice waited
    exact ⟨left, target, rfl, aims, admitted, above.trans (within current aimed)⟩
  · exact ⟨left, target, rfl, aims, admitted, within left aimed⟩

theorem LeftOuter.leave (leftOuter : flight.LeftOuter tree admits)
    (refused : admits target = false) :
    (flight.make (.leave target)).LeftOuter tree admits := by
  intro notice waits
  rw [outbox_leave] at waits
  obtain ⟨left, current, rfl, aims, admitted, above⟩ := leftOuter notice waits
  refine ⟨left, current, rfl, ?_, admitted, above⟩
  -- `current` takes the dockable, so it is not the one that lets it go
  rw [aimed?_leave, aims, if_neg]
  intro same
  rw [Option.some.inj same, refused] at admitted
  cases admitted

theorem LeftOuter.hearMove (wellFormed : tree.WellFormed) {standing : Standing}
    (leftOuter : flight.LeftOuter tree admits) (flying : flight.inFlight = some node)
    (found : flight.standing? node = some standing)
    (inLine : ∀ left, flight.aimed? = some left →
      left = target ∨ tree.Above left target ∨ tree.Above target left) :
    (flight.hearMove tree admits node target).LeftOuter tree admits := by
  rw [Flight.hearMove]
  split
  · next admitted =>
      split
      · exact leftOuter
      · next takes =>
          exact leftOuter.hover flying found admitted
            (Tree.above_of_takes wellFormed inLine takes)
  · next refused => exact leftOuter.leave (Bool.eq_false_iff.mpr refused)

theorem LeftOuter.aimed?_foldl_heed (wellFormed : tree.WellFormed)
    (leftOuter : flight.LeftOuter tree admits) :
    (flight.outbox.foldl heed { flight with outbox := [] }).aimed? = flight.aimed? := by
  have emptied : ({ flight with outbox := [] } : Flight).aimed? = flight.aimed? := rfl
  cases aims : flight.aimed? with
  | none => exact aimed?_foldl_heed_of_none (emptied.trans aims)
  | some target =>
      rw [Flight.aimed?_foldl_heed (emptied.trans aims), if_neg]
      intro waits
      obtain ⟨left, current, same, aimed, _, above⟩ := leftOuter _ waits
      cases same
      cases aims.symm.trans aimed
      exact wellFormed.acyclic target above

end Flight

/-- Hooks with the ready-made hit test or none, a filter that goes by identifiers only, and
feedback by which nothing moves. -/
structure Hooks.Impartial (hooks : Hooks) : Prop where
  keepsGeometry : hooks.KeepsGeometry
  accept_eq : ∀ (tree other : Tree) (target node : NodeId),
    (hooks.runAccept tree target node).1 = (hooks.runAccept other target node).1
  hitTest_eq : hooks.hitTest.getD Scene.hits = Scene.hits

namespace Session

variable {session : Session} {hooks : Hooks} {node : NodeId} {root : Point}

/-- Whether a target takes the dockable with the pointer at `root`: it is not the dockable, nor
below it, nor where it was torn out of; the filter agrees; and the pointer is within it. -/
def admits (session : Session) (hooks : Hooks) (node : NodeId) (root : Point)
    (target : NodeId) : Bool :=
  !session.refusesItself target node && (hooks.runAccept session.tree target node).1 &&
    session.hits target root

theorem fst_isCandidate (impartial : hooks.Impartial) (session : Session) (target node : NodeId)
    (root : Point) :
    (session.isCandidate target node root hooks).1 = session.admits hooks node root target := by
  unfold isCandidate admits
  cases session.refusesItself target node with
  | true => rfl
  | false =>
      dsimp only
      cases (hooks.runAccept session.tree target node).1 with
      | false => rfl
      | true =>
          dsimp only [Hooks.runHitTest]
          rw [impartial.hitTest_eq]
          rfl

theorem Undisturbed.admits_eq {before after : Session} (impartial : hooks.Impartial)
    (undisturbed : Undisturbed node before after) (root : Point) :
    after.admits hooks node root = before.admits hooks node root := by
  funext target
  have hits_eq : after.hits target root = before.hits target root := calc
    after.hits target root = Scene.hits ⟨before.tree, after.desktop⟩ target root :=
      undisturbed.geometry.hits_eq after.desktop target root
    _ = before.hits target root := by rw [undisturbed.desktop_eq]
  rw [admits, admits, hits_eq, refusesItself, undisturbed.origin_eq,
    undisturbed.geometry.isAncestor_eq, impartial.accept_eq after.tree before.tree, refusesItself]

theorem Undisturbed.isAncestor_eq {before after : Session}
    (undisturbed : Undisturbed node before after) :
    after.tree.isAncestor = before.tree.isAncestor := by
  funext upper lower
  exact undisturbed.geometry.isAncestor_eq upper lower

theorem pointerMove_of_not_isCandidate {target : NodeId} (orderly : session.Orderly)
    (keeps : hooks.KeepsGeometry) (flying : session.inFlight = some node)
    (refused : (session.isCandidate target node root hooks).1 = false) :
    Undisturbed node session (session.targetEvent target (.pointerMove root) hooks).session ∧
      (session.targetEvent target (.pointerMove root) hooks).session.flight =
        session.flight.make (.leave target) := by
  have airborne : session.flight.inFlight = some node := flying
  have active := session.activeTarget?_flight node
  have moved := session.moved_targetMotion node target hooks root
  rw [targetEvent_pointerMove flying, Flight.make, airborne]
  generalize session.targetMotion target node root hooks = reaction at moved ⊢
  dsimp only
  cases moved with
  | unknown missing =>
      obtain ⟨dockable, found, _⟩ := orderly.dockable?_of_inFlight flying
      cases missing.symm.trans found
  | refused found _ elsewhere =>
      rw [found, Option.bind_some] at active
      rw [active, if_neg elsewhere]
      exact ⟨session.undisturbed_refl node, rfl⟩
  | left found _ aims =>
      rw [found, Option.bind_some, aims] at active
      rw [active, if_pos rfl, flight_dropCandidate, flight_giveFeedback]
      have told := undisturbed_giveFeedback keeps session node target false
      exact ⟨told.trans (undisturbed_aim _ node none .dragging), rfl⟩
  | kept _ inside => cases refused.symm.trans inside
  | taken _ inside => cases refused.symm.trans inside

theorem flight_pointerMove (orderly : session.Orderly) (impartial : hooks.Impartial)
    (flying : session.inFlight = some node) (target : NodeId) (root : Point) :
    Undisturbed node session (session.targetEvent target (.pointerMove root) hooks).session ∧
      (session.targetEvent target (.pointerMove root) hooks).session.flight =
        session.flight.hearMove session.tree (session.admits hooks node root) node target := by
  have candidate := fst_isCandidate impartial session target node root
  rw [Flight.hearMove]
  cases admitted : session.admits hooks node root target with
  | true =>
      rw [admitted] at candidate
      exact pointerMove_of_isCandidate orderly impartial.keepsGeometry flying candidate
  | false =>
      rw [admitted] at candidate
      exact pointerMove_of_not_isCandidate orderly impartial.keepsGeometry flying candidate

/-- A session in which some of the targets on the line may have been told of a move that `before`
knew nothing of. -/
structure Tracks (before : Session) (hooks : Hooks) (node : NodeId) (root : Point)
    (line : List NodeId) (after : Session) : Prop where
  orderly : after.Orderly
  flying : after.inFlight = some node
  undisturbed : Undisturbed node before after
  listed : ∀ target, after.flight.aimed? = some target → target ∈ line
  leftOuter : after.flight.LeftOuter before.tree (before.admits hooks node root)

section Tracks

variable {before : Session} {line : List NodeId} (wellFormed : before.tree.WellFormed)
  (inLine : before.tree.InLine line) (impartial : hooks.Impartial)
include wellFormed inLine impartial

theorem Tracks.pointerMove (tracks : Tracks before hooks node root line session) {target : NodeId}
    (listed : target ∈ line) :
    Tracks before hooks node root line
        (session.targetEvent target (.pointerMove root) hooks).session ∧
      (session.targetEvent target (.pointerMove root) hooks).session.flight.aimed? =
        before.tree.aimAfter (before.admits hooks node root) session.flight.aimed? target := by
  obtain ⟨undisturbed, flight_eq⟩ :=
    flight_pointerMove tracks.orderly impartial tracks.flying target root
  have heard : session.flight.hearMove session.tree (session.admits hooks node root) node target =
      session.flight.hearMove before.tree (before.admits hooks node root) node target := by
    rw [Flight.hearMove, Flight.hearMove, tracks.undisturbed.admits_eq impartial,
      tracks.undisturbed.isAncestor_eq]
  obtain ⟨standing, found⟩ := tracks.orderly.single.registered tracks.flying
  rw [heard] at flight_eq
  have aimed := congrArg Flight.aimed? flight_eq
  rw [Flight.aimed?_hearMove tracks.flying found] at aimed
  refine ⟨⟨tracks.orderly.targetEvent target (.pointerMove root) hooks, ?_,
    tracks.undisturbed.trans undisturbed, ?_, ?_⟩, aimed⟩
  · have still := congrArg Flight.inFlight flight_eq
    rw [Flight.inFlight_hearMove] at still
    exact still.trans tracks.flying
  · rw [aimed]
    exact Tree.mem_of_aimAfter tracks.listed listed
  · rw [flight_eq]
    refine tracks.leftOuter.hearMove wellFormed tracks.flying found fun left aims => ?_
    exact inLine left (tracks.listed left aims) target listed

theorem Tracks.deliverEach (tracks : Tracks before hooks node root line session)
    {order : List NodeId} (listed : ∀ target ∈ order, target ∈ line) :
    let told := (session.deliverEach hooks
      (order.map fun target => ⟨target, .pointerMove root⟩)).1
    Tracks before hooks node root line told ∧
      told.flight.aimed? = order.foldl
        (before.tree.aimAfter (before.admits hooks node root)) session.flight.aimed? := by
  -- the filter and the hit test answer as they did in `before`, whoever has been told by then
  induction order generalizing session with
  | nil => exact ⟨tracks, rfl⟩
  | cons target order induction =>
      obtain ⟨moved, aimed⟩ :=
        tracks.pointerMove wellFormed inLine impartial (listed target List.mem_cons_self)
      have rest := induction moved fun other waits => listed other (List.mem_cons_of_mem _ waits)
      rw [aimed] at rest
      exact rest

end Tracks

def AimsAt (session : Session) (node : NodeId) : Option NodeId → Prop
  | some target => session.HoversOver node target
  | none => session.DragsFreely node

theorem Orderly.aimsAt_iff (orderly : session.Orderly) {aim : Option NodeId} :
    session.AimsAt node aim ↔ session.inFlight = some node ∧ session.flight.aimed? = aim := by
  cases aim with
  | some target => exact orderly.hoversOver_iff
  | none => exact orderly.dragsFreely_iff

theorem Tracks.deliverWaiting {before : Session} {line : List NodeId}
    (wellFormed : before.tree.WellFormed) (tracks : Tracks before hooks node root line session)
    (later : Hooks) (rounds : Nat) :
    let drained := (session.deliverWaiting later (rounds + 1)).1
    drained.outbox = [] ∧ drained.AimsAt node session.flight.aimed? := by
  intro drained
  have news : ∀ notice ∈ session.outbox, notice.IsNews := by
    intro notice waits
    obtain ⟨left, _, rfl, _⟩ := tracks.leftOuter notice waits
    exact .inl rfl
  have flight_eq : drained.flight = session.flight.outbox.foldl Flight.heed
      { session.flight with outbox := [] } := flight_deliverWaiting news later rounds
  have orderly : drained.Orderly := tracks.orderly.deliverWaiting later (rounds + 1)
  refine ⟨?_, orderly.aimsAt_iff.mpr ⟨?_, ?_⟩⟩
  · have emptied := congrArg Flight.outbox flight_eq
    rw [Flight.outbox_foldl_heed] at emptied
    exact emptied
  · have still := congrArg Flight.inFlight flight_eq
    rw [Flight.inFlight_foldl_heed] at still
    exact still.trans tracks.flying
  · rw [flight_eq]
    exact tracks.leftOuter.aimed?_foldl_heed wellFormed

theorem getLast?_filter_eq_iff {nodes : List NodeId} {keep : NodeId → Bool} :
    (nodes.filter keep).getLast? = nodes.getLast? ↔
      ∀ last, nodes.getLast? = some last → keep last = true := by
  rw [List.getLast?_filter, ← List.head?_reverse]
  constructor
  · intro same last ends
    exact List.find?_some (same.trans ends)
  · intro keeps
    cases backwards : nodes.reverse with
    | nil => rfl
    | cons last rest => exact List.find?_cons_of_pos (keeps last (congrArg List.head? backwards))

/-- When all targets of a nested line have been told of a move and all notices are delivered, the
dockable hovers over the innermost target that takes it and was not passed over. So the order in
which the targets are told does not matter, unless it passes over the innermost target that takes
the dockable: that one is told while the dockable still hovers over a target nested in it, which
does not take it any more but is told later. -/
theorem innermost_unless_passedOver (reachable : session.Reachable)
    (impartial : hooks.Impartial) (flying : session.inFlight = some node)
    (nothing : session.outbox = []) {line order : List NodeId}
    (nested : line.IsChain fun upper lower => session.tree.isAncestor upper lower = true)
    (begun : ∀ target, session.HoversOver node target → target ∈ line)
    (all : order.Perm line) (root : Point) (later : Hooks) (rounds : Nat) :
    let told := (session.deliverEach hooks
      (order.map fun target => ⟨target, .pointerMove root⟩)).1
    let drained := (told.deliverWaiting later (rounds + 1)).1
    let admitted := line.filter (session.admits hooks node root)
    let passedOver := session.tree.passesOver (session.admits hooks node root)
      ((session.dockable? node).bind Dockable.activeTarget) order
    drained.outbox = [] ∧
      drained.AimsAt node (admitted.filter fun target => !passedOver target).getLast? ∧
      (drained.AimsAt node admitted.getLast? ↔
        ∀ innermost, admitted.getLast? = some innermost → passedOver innermost = false) := by
  intro told drained admitted passedOver
  have orderly := orderly_of_reachable reachable
  have wellFormed := orderly.wellFormed
  have above := wellFormed.pairwise_above nested
  have start : Tracks session hooks node root line session := by
    refine ⟨orderly, flying, session.undisturbed_refl node, fun target aims => ?_, ?_⟩
    · exact begun target (orderly.hoversOver_iff.mpr ⟨flying, aims⟩)
    · intro notice waits
      have empty : session.flight.outbox = [] := nothing
      rw [empty] at waits
      cases waits
  obtain ⟨tracks, aimed⟩ := start.deliverEach wellFormed (Tree.inLine_of_pairwise above) impartial
    fun target => all.mem_iff.mp
  obtain ⟨emptied, aims⟩ := tracks.deliverWaiting wellFormed later rounds
  have active := aimed?_of_inFlight flying
  rw [aimed, Tree.foldl_aimAfter_eq_getLast? wellFormed above start.listed all, active] at aims
  have orderlyAfter := tracks.orderly.deliverWaiting later (rounds + 1)
  refine ⟨emptied, aims, ?_⟩
  have same : (admitted.filter fun target => !passedOver target).getLast? = admitted.getLast? ↔
      ∀ innermost, admitted.getLast? = some innermost → passedOver innermost = false := by
    simp only [getLast?_filter_eq_iff, Bool.not_eq_true']
  rw [orderlyAfter.aimsAt_iff] at aims ⊢
  rw [← same, aims.2]
  exact and_iff_right aims.1

def overInner : Session :=
  (start (.withCapabilities .none) .standard).run
    [.command (.setFaults (.onCreate "none left")),
      .edit (.add (.newPanel "outer") ⟨0, 0, 8, 6⟩),
      .edit (.add (.newPanel "inner") ⟨4, 0, 2, 2⟩),
      .edit (.addChild ⟨0⟩ ⟨1⟩),
      .create (.new "tool"),
      .tearOut ⟨2⟩ .zero,
      .targetEvent ⟨1⟩ (.pointerMove ⟨5, 1⟩) .readyMade]

/-- Both panels have been told, in this order, that the pointer left the inner one only. -/
def movedOut (order : List NodeId) : Session :=
  ((overInner.deliverEach .readyMade
    (order.map fun target => ⟨target, .pointerMove ⟨1, 3⟩⟩)).1.deliverWaiting .readyMade 1).1

theorem passedOver_of_overInner :
    overInner.HoversOver ⟨2⟩ ⟨1⟩ ∧ overInner.admits .readyMade ⟨2⟩ ⟨1, 3⟩ ⟨0⟩ = true ∧
      (movedOut [⟨1⟩, ⟨0⟩]).HoversOver ⟨2⟩ ⟨0⟩ ∧ (movedOut [⟨0⟩, ⟨1⟩]).DragsFreely ⟨2⟩ := by
  have reachable : overInner.Reachable := ⟨_, _, _, rfl⟩
  have impartial : Hooks.readyMade.Impartial := by
    refine ⟨?_, fun _ _ _ _ => rfl, rfl⟩
    intro feedback given
    cases given
  have flying : overInner.inFlight = some ⟨2⟩ := by decide +kernel
  have aims : (overInner.dockable? ⟨2⟩).bind Dockable.activeTarget = some ⟨1⟩ := by
    decide +kernel
  have hovers : overInner.HoversOver ⟨2⟩ ⟨1⟩ :=
    (orderly_of_reachable reachable).hoversOver_iff.mpr
      ⟨flying, (aimed?_of_inFlight flying).trans aims⟩
  have nested : [(⟨0⟩ : NodeId), ⟨1⟩].IsChain fun upper lower =>
      overInner.tree.isAncestor upper lower = true := by decide +kernel
  have begun (target : NodeId) (other : overInner.HoversOver ⟨2⟩ target) :
      target ∈ [(⟨0⟩ : NodeId), ⟨1⟩] := by
    obtain ⟨_, dockable, found, _, active⟩ := other
    rw [found, Option.bind_some, active] at aims
    cases aims
    exact List.mem_cons_of_mem _ List.mem_cons_self
  have outcome (order : List NodeId) (all : order.Perm [⟨0⟩, ⟨1⟩]) :=
    (innermost_unless_passedOver reachable impartial flying (by decide +kernel) nested begun all
      ⟨1, 3⟩ .readyMade 0).2.1
  rw [aims] at outcome
  refine ⟨hovers, by decide +kernel, ?_, ?_⟩
  · exact outcome [⟨1⟩, ⟨0⟩] (by decide)
  · exact outcome [⟨0⟩, ⟨1⟩] (by decide)

end Session
end Docking

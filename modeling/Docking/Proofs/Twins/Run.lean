import Docking.Proofs.Twins.Takeoff

namespace Docking.Session

/-! A dockable is torn out, steered, and comes to rest. Nothing that a session answers on the way,
and nothing that can be seen of it, tells how the dockable was carried. -/

inductive Answer
  | nothing
  | outcome (result : Except DockError Unit)
  | created (result : Except DockError NodeId)
  | handled (status : Status) (consulted : List HookCall)
  | notices (notices : List Notice)

def answer (session : Session) : Operation → Answer
  | .edit _ | .command _ | .destroyWidget _ | .syncDestroyed => .nothing
  | .create plan => .created (session.create plan).2
  | .destroyDockable node => .outcome (session.destroyDockable node).2
  | .tearOut node root => .outcome (session.tearOut node root).2
  | .forceUndocked node => .outcome (session.forceUndocked node).2
  | .startInteractiveResize node edge => .outcome (session.startInteractiveResize node edge).2
  | .payloadEvent node event => .handled (session.payloadEvent node event).2 []
  | .targetEvent target event hooks =>
      .handled (session.targetEvent target event hooks).status
        (session.targetEvent target event hooks).consulted
  | .takeNotices => .notices session.takeNotices.2

structure View where
  /-- All nodes and their links. Of the dockable and what is below it only the windows and the
  places are left out. -/
  tree : Tree
  dockable : Option Dockable
  inFlight : Option NodeId
  outbox : List Notice
  /-- Where the dockable lies and whether it has a window of its own, once it is not in flight. -/
  rest : Option (Option Rect × Option Bool)

def view (session : Session) (inside : NodeId → Bool) (node : NodeId) : View where
  tree := session.tree.veil inside
  dockable := (session.dockable? node).map Dockable.bare
  inFlight := session.inFlight
  outbox := session.outbox
  rest := if session.inFlight = some node then none else some (session.rest node)

/-- The answers and views of a run, step by step until the dockable is no longer in flight. -/
def chronicle (session : Session) (inside : NodeId → Bool) (node : NodeId) :
    List Operation → List (Answer × View)
  | [] => []
  | operation :: later =>
      let after := session.perform operation
      (session.answer operation, after.view inside node) ::
        if after.inFlight = some node then after.chronicle inside node later else []

/-- A docked dockable is torn out by a call, or by a drag that its container notices. -/
inductive Operation.Opens (node : NodeId) : Operation → Prop
  | tearOut (root : Point) : Opens node (.tearOut node root)
  | strongDrag (container : NodeId) (root : Point) (filter : Option (NodeId → NodeId → Bool)) :
      Opens node (.targetEvent container (.pointerMove root) (.filtering filter))

/-- What may happen during a flight. The dockable is steered or put down, targets that are not
`inside` meet the pointer or are destroyed, and notices are taken and handed to their targets. -/
inductive Operation.Attends (inside : NodeId → Bool) (node : NodeId) : Operation → Prop
  | steer {event : Event} (steers : event.steers = true) :
      Attends inside node (.payloadEvent node event)
  | force : Attends inside node (.forceUndocked node)
  | meet {target : NodeId} {event : Event} (filter : Option (NodeId → NodeId → Bool))
      (meets : event.meetsTargets = true) (outside : inside target = false) :
      Attends inside node (.targetEvent target event (.filtering filter))
  | deliver (target : NodeId) {event : Event} (filter : Option (NodeId → NodeId → Bool))
      (notice : event.isNotice = true) :
      Attends inside node (.targetEvent target event (.filtering filter))
  | destroy {target : NodeId} (outside : inside target = false) :
      Attends inside node (.destroyWidget target)
  | takeNotices : Attends inside node .takeNotices
  | setPointer (pointer : PointerState) : Attends inside node (.command (.setPointer pointer))
  | setAnswer (keep : Bool) : Attends inside node (.command (.setAnswer keep))

variable {inside : NodeId → Bool} {known : WindowId → Prop} {node : NodeId}
  {first second : Session}

theorem Alike.bare_eq (alike : Alike inside known first second) (node : NodeId) :
    (second.dockable? node).map Dockable.bare = (first.dockable? node).map Dockable.bare := by
  have same := congrArg (Table.get? · node) alike.dockables_eq
  simp only [Table.get?_mapValues] at same
  exact same

namespace Proceeds

variable (proceeds : Proceeds inside known node first second)
include proceeds

theorem alike : Alike inside known first second := by
  cases proceeds with
  | onward twins flying => exact twins.alike
  | finished rested grounded => exact rested.alike

theorem view_eq : second.view inside node = first.view inside node := by
  have alike := proceeds.alike
  unfold view
  rw [alike.scene.tree_eq, alike.bare_eq, alike.inFlight_eq, alike.outbox_eq]
  cases proceeds with
  | onward twins flying => rw [if_pos flying, if_pos flying]
  | finished rested grounded => rw [rested.rest_eq]

end Proceeds

namespace Twins

variable (twins : Twins inside known node first second)
include twins

theorem perform (orderly : first.Orderly) (flying : first.inFlight = some node)
    {operation : Operation} (attends : operation.Attends inside node) :
    second.answer operation = first.answer operation ∧
      Proceeds inside known node (first.perform operation) (second.perform operation) := by
  have desktop := twins.alike.scene.desktop
  have handled {target : NodeId} {event : Event} {hooks : Hooks}
      (concur : Concur inside known node (first.targetEvent target event hooks)
        (second.targetEvent target event hooks)) :
      second.answer (.targetEvent target event hooks) =
          first.answer (.targetEvent target event hooks) ∧
        Proceeds inside known node (first.perform (.targetEvent target event hooks))
          (second.perform (.targetEvent target event hooks)) :=
    ⟨congrArg₂ Answer.handled concur.status_eq concur.consulted_eq, concur.proceeds⟩
  cases attends with
  | steer steers =>
      obtain ⟨status_eq, proceeds⟩ := twins.payloadEvent flying orderly steers
      exact ⟨congrArg (Answer.handled · []) status_eq, proceeds⟩
  | force =>
      obtain ⟨result_eq, proceeds⟩ := twins.forceUndocked flying orderly
      exact ⟨congrArg Answer.outcome result_eq, proceeds⟩
  | meet filter meets outside =>
      exact handled (twins.targetEvent flying filter orderly (.inr ⟨meets, outside⟩))
  | deliver target filter notice =>
      exact handled (twins.targetEvent flying filter orderly (.inl notice))
  | destroy outside =>
      exact ⟨rfl, .onward (twins.destroyWidget outside)
        ((twins.held.destroyWidget outside).2.trans flying)⟩
  | takeNotices =>
      refine ⟨congrArg Answer.notices twins.alike.outbox_eq, .onward ⟨?_, ?_, ?_⟩ flying⟩
      · exact { twins.alike with outbox_eq := rfl }
      · exact twins.held.bookkeep first.inFlight []
      · exact twins.held'.bookkeep second.inFlight []
  | setPointer pointer =>
      refine ⟨rfl, .onward (twins.hear ⟨rfl, ?_, ?_⟩ rfl rfl rfl rfl) flying⟩
      · exact desktop.confirmAnswer_eq
      · exact desktop.windowPosition?_eq
  | setAnswer keep =>
      refine ⟨rfl, .onward (twins.hear ⟨?_, rfl, ?_⟩ rfl rfl rfl rfl) flying⟩
      · exact desktop.pointer_eq
      · exact desktop.windowPosition?_eq

end Twins

theorem Proceeds.chronicle_eq (proceeds : Proceeds inside known node first second)
    (orderly : first.Orderly) {operations : List Operation}
    (attends : ∀ operation ∈ operations, operation.Attends inside node) :
    (if second.inFlight = some node then second.chronicle inside node operations else []) =
      if first.inFlight = some node then first.chronicle inside node operations else [] := by
  -- one step leads from twins to twins, or ends the flight and with it the chronicle
  induction operations generalizing first second with
  | nil => simp only [chronicle, ite_self]
  | cons operation later induction =>
      rw [proceeds.alike.inFlight_eq]
      cases proceeds with
      | finished rested grounded => rw [grounded, if_neg nofun, if_neg nofun]
      | onward twins flying =>
          obtain ⟨answer_eq, next⟩ :=
            twins.perform orderly flying (attends operation (List.mem_cons_self ..))
          have rest := induction next (orderly.perform operation) fun operation listed =>
            attends operation (List.mem_cons_of_mem _ listed)
          rw [if_pos flying, if_pos flying]
          simp only [chronicle, answer_eq, next.view_eq, rest]

/-- The only dockable of a session is docked, and two hosts that both do whatever they are asked
can each show the session. -/
structure Staged (session : Session) (node : NodeId) (desktop desktop' : Desktop) : Prop where
  reachable : session.Reachable
  docked : (session.dockable? node).map Dockable.phase = some .docked
  alone : ∀ other, other ≠ node → session.dockable? other = none
  hosts : Desktop.Interchangeable session.tree desktop desktop'

theorem staged_of_single {session : Session} {desktop : Desktop} (reachable : session.Reachable)
    (docked : (session.dockable? node).map Dockable.phase = some .docked)
    (single : session.dockables.keys = [node]) (able : desktop.Able) :
    session.Staged node desktop desktop where
  reachable := reachable
  docked := docked
  alone other different := by
    refine (session.dockables.get?_eq_none_iff other).mpr ?_
    rw [single, List.mem_singleton]
    exact different
  hosts := ⟨able, able, rfl, rfl, fun _ _ => rfl⟩

/-- How a dockable is carried makes no difference. Two copies of a session have it carried in some
way each, by hosts that have given out all windows the tree is shown in. They give the same answers
and the same views after every operation until the dockable has come to rest. -/
theorem carriers_make_no_difference {session : Session} {desktop desktop' : Desktop}
    (staged : session.Staged node desktop desktop') (accounts : desktop.Accounts session.tree)
    (accounts' : desktop'.Accounts session.tree) (kind kind' : CarrierKind) {opening : Operation}
    (opens : opening.Opens node) {later : List Operation}
    (attends : ∀ operation ∈ later, operation.Attends (session.tree.within node) node) :
    (session.carriedBy node kind desktop).chronicle (session.tree.within node) node
        (opening :: later) =
      (session.carriedBy node kind' desktop').chronicle (session.tree.within node) node
        (opening :: later) := by
  have orderly := orderly_of_reachable staged.reachable
  obtain ⟨dockable, found, docked⟩ := Option.map_eq_some_iff.mp staged.docked
  have opened : (session.carriedBy node kind' desktop').answer opening =
        (session.carriedBy node kind desktop).answer opening ∧
      Proceeds (session.tree.within node) session.tree.Shows node
        ((session.carriedBy node kind desktop).perform opening)
        ((session.carriedBy node kind' desktop').perform opening) := by
    cases opens with
    | tearOut root =>
        obtain ⟨result_eq, proceeds⟩ := tearOut_carriedBy orderly found docked staged.alone
          staged.hosts accounts accounts' kind kind' root
        exact ⟨congrArg Answer.outcome result_eq, proceeds⟩
    | strongDrag container root filter =>
        have concur := strongDrag_carriedBy orderly found docked staged.alone staged.hosts accounts
          accounts' kind kind' container root filter
        exact ⟨congrArg₂ Answer.handled concur.status_eq concur.consulted_eq, concur.proceeds⟩
  obtain ⟨answer_eq, proceeds⟩ := opened
  have rest := proceeds.chronicle_eq ((orderly.carriedBy node kind desktop).perform opening) attends
  simp only [chronicle, answer_eq, proceeds.view_eq, rest]

/-- A panel is shown in window 1, and a dockable lies on a shelf. -/
def furnish : List Operation :=
  [.edit (.add (.newPanel "stage") ⟨0, 0, 1, 1⟩),
    .edit (.attachWindow ⟨0⟩ ⟨1⟩),
    .edit (.add (.newPanel "shelf") ⟨4, 0, 1, 1⟩),
    .create { DockablePlan.new "tool" with
      layout := ⟨4, 0, 1, 1⟩, container := some (⟨1⟩, none) }]

def carryOver : List Operation :=
  [.targetEvent ⟨0⟩ (.pointerMove .zero) (.filtering none),
    .payloadEvent ⟨2⟩ (.pointerUp .primary .zero),
    .takeNotices,
    .targetEvent ⟨0⟩ (.dockRelease .zero) (.filtering none)]

theorem attends_carryOver (outside : inside ⟨0⟩ = false) :
    ∀ operation ∈ carryOver, operation.Attends inside ⟨2⟩ := by
  intro operation listed
  simp only [carryOver, List.mem_cons, List.not_mem_nil, or_false] at listed
  rcases listed with rfl | rfl | rfl | rfl
  · exact .meet none rfl outside
  · exact .steer rfl
  · exact .takeNotices
  · exact .deliver ⟨0⟩ none rfl

def withMainWindow : Session :=
  (start (.withCapabilities .all) .standard).run (.command (.addWindow .zero ⟨1, 1⟩) :: furnish)

theorem docked_withMainWindow :
    let seen (kind : CarrierKind) :=
      (withMainWindow.carriedBy ⟨2⟩ kind withMainWindow.desktop).chronicle
        (withMainWindow.tree.within ⟨2⟩) ⟨2⟩ (.tearOut ⟨2⟩ ⟨4, 0⟩ :: carryOver)
    seen .generic = seen .imageCursor ∧
      (seen .generic).map (fun entry => entry.2.dockable.map Dockable.phase) =
        [some .dragging, some .hovering, some .hovering, some .hovering, some .docked] := by
  have staged : withMainWindow.Staged ⟨2⟩ withMainWindow.desktop withMainWindow.desktop :=
    staged_of_single ⟨_, _, _, rfl⟩ rfl rfl ⟨rfl, rfl⟩
  have accounts : withMainWindow.desktop.Accounts withMainWindow.tree := by
    rintro window ⟨node, shown⟩
    obtain ⟨data, known, _⟩ := Option.bind_eq_some_iff.mp shown
    have listed : node ∈ withMainWindow.tree.ids :=
      (Tree.contains_iff_mem_ids _ node).mp ((Tree.contains_iff _ node).mpr ⟨data, known⟩)
    have only : ∀ node ∈ withMainWindow.tree.ids,
        ∀ window ∈ withMainWindow.tree.window? node, window = ⟨1⟩ := by decide
    rw [only node listed window shown]
    decide
  exact ⟨carriers_make_no_difference staged accounts accounts .generic .imageCursor
    (.tearOut ⟨4, 0⟩) (attends_carryOver rfl), rfl⟩

/-- No window has been opened, and number 1 is the next to be given out. -/
def withoutMainWindow : Session :=
  (start (.withCapabilities .all) .standard).run furnish

/-- The panel turns out to be in the window of the dockable. There it comes to lie in one place when
the window is put where the dockable was, and in another when that is left to the compositor. -/
theorem carriers_differ_withoutMainWindow :
    withoutMainWindow.Staged ⟨2⟩ withoutMainWindow.desktop withoutMainWindow.desktop ∧
      Operation.Opens ⟨2⟩ (.tearOut ⟨2⟩ ⟨4, 0⟩) ∧
      (∀ operation ∈ carryOver, operation.Attends (withoutMainWindow.tree.within ⟨2⟩) ⟨2⟩) ∧
      (withoutMainWindow.carriedBy ⟨2⟩ .generic withoutMainWindow.desktop).chronicle
          (withoutMainWindow.tree.within ⟨2⟩) ⟨2⟩ (.tearOut ⟨2⟩ ⟨4, 0⟩ :: carryOver) ≠
        (withoutMainWindow.carriedBy ⟨2⟩ .compositor withoutMainWindow.desktop).chronicle
          (withoutMainWindow.tree.within ⟨2⟩) ⟨2⟩ (.tearOut ⟨2⟩ ⟨4, 0⟩ :: carryOver) := by
  refine ⟨staged_of_single ⟨_, _, _, rfl⟩ rfl rfl ⟨rfl, rfl⟩, .tearOut ⟨4, 0⟩,
    attends_carryOver rfl, fun same => ?_⟩
  have phases := congrArg (List.map fun entry => entry.2.dockable.map Dockable.phase) same
  revert phases
  decide

end Docking.Session

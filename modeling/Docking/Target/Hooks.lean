import Docking.Scene
import Docking.Target.Placement

namespace Docking

/-! What a docking target contributes to the protocol. Hooks are handed over with each
event; a hook that changes the tree says so by a list of edits. -/

structure Hooks where
  hitTest : Option (Scene → NodeId → Point → Bool)
  /-- Whether the dockable may dock into the target; asked before the hit test. -/
  accept : Option (Tree → NodeId → NodeId → Bool)
  /-- Shows or hides that the target would take the dockable. -/
  feedback : Option (Tree → NodeId → Bool → List Tree.Edit)
  insert : Option (Tree → NodeId → NodeId → List Tree.Edit)
  remove : Option (Tree → NodeId → NodeId → List Tree.Edit)

inductive HookCall
  | hitTest (target : NodeId) (root : Point) (inside : Bool)
  | accept (target dockable : NodeId) (accepted : Bool)
  | feedback (target : NodeId) (shown : Bool)
  | insert (target dockable : NodeId)
  | remove (target dockable : NodeId)
deriving DecidableEq, Inhabited

def HookCall.name : HookCall → String
  | .hitTest .. => "hit_test"
  | .accept .. => "accept"
  | .feedback .. => "feedback"
  | .insert .. => "insert"
  | .remove .. => "remove"

def HookCall.names : List String := ["hit_test", "accept", "feedback", "insert", "remove"]

namespace Hooks

def none : Hooks := ⟨.none, .none, .none, .none, .none⟩

def readyMade : Hooks where
  hitTest := some Scene.hits
  accept := .none
  feedback := .none
  insert := some Placement.insertAtTarget
  remove := some fun tree _ dockable => Placement.removeLeavingBox tree dockable

/-- A target without a filter accepts every dockable, and is not consulted about it. -/
def runAccept (hooks : Hooks) (tree : Tree) (target dockable : NodeId) :
    Bool × List HookCall :=
  match hooks.accept with
  | some accept =>
      let accepted := accept tree target dockable
      (accepted, [.accept target dockable accepted])
  | .none => (true, [])

/-- A target without a hit test is hit within its rectangle on the screen. -/
def runHitTest (hooks : Hooks) (scene : Scene) (target : NodeId) (root : Point) :
    Bool × List HookCall :=
  let inside := hooks.hitTest.getD Scene.hits scene target root
  (inside, [.hitTest target root inside])

def runFeedback (hooks : Hooks) (tree : Tree) (target : NodeId) (shown : Bool) :
    Tree × List HookCall :=
  match hooks.feedback with
  | some feedback =>
      if tree.contains target then
        (tree.edit (feedback tree target shown), [.feedback target shown])
      else
        (tree, [])
  | .none => (tree, [])

/-- A target without an insertion of its own gets the ready-made one. -/
def runInsert (hooks : Hooks) (tree : Tree) (target dockable : NodeId) :
    Tree × List HookCall :=
  (tree.edit (hooks.insert.getD Placement.insertAtTarget tree target dockable),
    [.insert target dockable])

/-- A target without a removal of its own has the dockable detached, nothing more. -/
def runRemove (hooks : Hooks) (tree : Tree) (target dockable : NodeId) :
    Tree × List HookCall :=
  (tree.edit (hooks.remove.getD (fun _ _ dockable => [.detach dockable]) tree target
      dockable),
    [.remove target dockable])

end Hooks
end Docking

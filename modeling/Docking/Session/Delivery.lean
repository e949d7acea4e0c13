import Docking.Session.Target

namespace Docking.Session

/-! How an application hands events on to targets: one event to several targets in turn,
and the waiting notifications to their targets until none are left. -/

structure Delivered where
  target : NodeId
  event : Event
  status : Status
  consulted : List HookCall
deriving DecidableEq, Inhabited

def deliverEach (session : Session) (hooks : Hooks) : List Notice → Session × List Delivered
  | [] => (session, [])
  | notice :: rest =>
      let reaction := session.targetEvent notice.target notice.event hooks
      let later := deliverEach reaction.session hooks rest
      (later.1,
        ⟨notice.target, notice.event, reaction.status, reaction.consulted⟩ :: later.2)

/-- Takes and delivers the waiting notifications, in at most the given number of rounds. -/
def deliverWaiting (session : Session) (hooks : Hooks) : Nat → Session × List Delivered
  | 0 => (session, [])
  | rounds + 1 =>
      match session.takeNotices with
      | (emptied, []) => (emptied, [])
      | (emptied, notices) =>
          let round := deliverEach emptied hooks notices
          let later := deliverWaiting round.1 hooks rounds
          (later.1, round.2 ++ later.2)

end Docking.Session

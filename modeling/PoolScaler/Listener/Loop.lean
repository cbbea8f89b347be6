import PoolScaler.Listener.Manager
import PoolScaler.Listener.Message
set_option autoImplicit false

/-!
# Listening to the queue

The listener opens a session and polls its queue until a signal tells it to
stop, then gives the session back.  The cursor is the highest id seen; a
message is acknowledged when it comes and acted on only if its id is above the
cursor.  Waiting for the session and for a message can be cut short by the
signal, nothing else.
-/

namespace PoolScaler

/-- A dialogue of the listener: the questions of a session holder beside the
signal to stop. -/
abbrev ListenerDialogue (α : Type) : Type := Dialogue SessionNeed.interface.withSignal α

/-- A listener with an open session. -/
structure Listener where
  manager : SessionManager
  session : Session
  /-- The highest id of a message so far, and at least 0. -/
  cursor : Int64
  deriving DecidableEq, Repr, Inhabited

namespace Listener

/-- Tell the keeper of the pool. -/
def tell (event : Demand.Event) : SessionDialogue Unit :=
  Dialogue.call (S := SessionNeed.interface) (.tell event)

/-- Claim waiting jobs, and reserve for those that are granted. -/
def claim (conn : AdminConnection) (s : Session) (ids : List RequestId) : SessionDialogue Unit :=
  (SessionCall.acquireJobs conn s.poolId s.queueToken ids).ask.bind fun answer =>
    match (answer : Sourced (List RequestId)) with
    | .error _ => .done ()
    | .ok granted =>
      .ask (S := SessionNeed.interface) .clock fun now => tell (.reserve granted now)

/-- Act on what a message tells.  Jobs that were given to another pool are none
of ours. -/
def act (l : Listener) (news : News) : SessionDialogue Unit :=
  match news with
  | .available ids =>
    match l.manager.conn with
    | none => .done ()
    | some conn => if ids.isEmpty then .done () else claim conn l.session ids
  | .assigned id poolId _ =>
    if poolId ≠ 0 ∧ poolId ≠ l.session.poolId then .done () else tell (.assign id)
  | .completed id _ _ => tell (.complete id)
  | .unknown _ => .done ()

/-- Take a message: acknowledge it, and act on it unless its id is not above
the cursor.  A message that cannot be read is dropped. -/
def take (l : Listener) (raw : QueueMessage) : SessionDialogue Listener :=
  let seen := raw.id ≤ l.cursor
  let l := if seen then l else { l with cursor := raw.id }
  (SessionCall.deleteMessage l.session.queueUrl l.session.queueToken raw.id).ask.bind fun _ =>
    if seen then .done l
    else match Message.parse raw with
      | .error _ => .done l
      | .ok message => (l.act message.news).bind fun _ => .done l

/-- Have the session's lease issued anew; if that fails, the session stays. -/
def renew (l : Listener) : SessionDialogue Listener :=
  (l.manager.refresh l.session).bind fun
    | (.ok session, manager) => .done { l with manager := manager, session := session }
    | (.error _, manager) => .done { l with manager := manager }

/-- Go on from the answer to a poll. -/
def answered (l : Listener) : Sourced (Option QueueMessage) → SessionDialogue Listener
  | .ok (some raw) => l.take raw
  | .ok none => .done l
  | .error fault => if fault.kind = .tokenExpired then l.renew else .done l

/-- Poll once; without result when the signal came first. -/
def turn (l : Listener) : ListenerDialogue (Option Listener) :=
  (SessionCall.getMessage l.session.queueUrl l.session.queueToken l.cursor).ask.raced.bind fun
    | none => .done none
    | some answer => (l.answered answer).steady.bind fun l => .done (some l)

/-- Poll until the signal comes, `turns` times at most. -/
def poll (turns : Nat) (l : Listener) : ListenerDialogue Listener :=
  match turns with
  | 0 => .done l
  | turns + 1 =>
    Dialogue.signalled.bind fun stop =>
      if stop then .done l
      else l.turn.bind fun
        | none => .done l
        | some l => poll turns l

/-- Give the live session back. -/
def release (l : Listener) : SessionDialogue Listener :=
  match l.manager.active with
  | none => .done l
  | some session =>
    (l.manager.close session).bind fun out => .done { l with manager := out.2 }

/-- Open a session, poll its queue until the signal comes and give the session
back; the cursor that was reached.  Only a session that cannot be opened is a
fault. -/
def run (config : SessionConfig) (turns : Nat) :
    ListenerDialogue (Except SetupFault Int64) :=
  (SessionManager.new config).openSession.raced.bind fun
    | none => .done (.ok 0)
    | some (.error fault, _) => .done (.error fault)
    | some (.ok session, manager) =>
      (poll turns ⟨manager, session, 0⟩).bind fun l =>
        l.release.steady.bind fun l => .done (.ok l.cursor)

end Listener

end PoolScaler

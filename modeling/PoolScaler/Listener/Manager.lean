import PoolScaler.Source.Service
set_option autoImplicit false

/-!
# Holding a message session

A session is opened in three steps: ask for the service of the scope, register
the pool there, lease its message queue.  Whoever holds sessions holds at most
one at a time; opening another gives the one before back first.
-/

namespace PoolScaler

/-- Whose session is held, and how hard to try. -/
structure SessionConfig where
  identity : Identity
  /-- The name the lease is registered under. -/
  ownerName : String
  /-- How often to ask for a lease before giving up. -/
  createAttempts : UInt32
  /-- How long to wait before asking again. -/
  createRetryDelay : Span
  deriving DecidableEq, Repr, Inhabited

namespace SessionConfig

/-- What is wrong with a configuration, if anything is. -/
def complaint? (c : SessionConfig) : Option String :=
  if c.identity.poolName.isEmpty then some "pool name is empty"
  else if c.identity.isUnscoped then
    some "one of enterprise, organization or repository must be set"
  else if c.ownerName.isEmpty then some "session owner name is empty"
  else if c.createAttempts = 0 then some "session create attempts must be at least 1"
  else none

/-- The wording of a complaint. -/
def refusal (complaint : String) : String := "invalid listener configuration: " ++ complaint

/-- How often a lease is asked for: at least once. -/
def attempts (c : SessionConfig) : Nat := Nat.max c.createAttempts.toNat 1

end SessionConfig

/-- A step of opening a session. -/
inductive SetupStep where
  /-- Asking for the service of the scope. -/
  | adminHandshake
  /-- Registering the pool. -/
  | runnerPool
  /-- Leasing the message queue. -/
  | messageSession
  deriving DecidableEq, Repr, Inhabited

/-- The name of a step. -/
def SetupStep.name : SetupStep → String
  | adminHandshake => "admin handshake"
  | runnerPool => "runner pool registration"
  | messageSession => "message session"

/-- A session could not be had: at which step, and why. -/
structure SetupFault where
  step : SetupStep
  source : SourceFault
  deriving DecidableEq, Repr, Inhabited

/-- The wording of a fault. -/
def SetupFault.message (f : SetupFault) : String :=
  "session setup failed at " ++ f.step.name ++ ": " ++ f.source.message

/-- The holder of a pool's message session. -/
structure SessionManager where
  config : SessionConfig
  /-- The service asked last that granted a session. -/
  conn : Option AdminConnection
  /-- The pool as registered when a session was last opened. -/
  pool : Option RunnerPool
  /-- The live session. -/
  active : Option Session
  deriving DecidableEq, Repr, Inhabited

namespace SessionManager

/-- Nothing is held. -/
def new (config : SessionConfig) : SessionManager := ⟨config, none, none, none⟩

/-- Go on with what the source answered; a refusal fails the step. -/
def step {α β : Type} (stage : SetupStep) (d : SessionDialogue (Sourced α))
    (next : α → SessionDialogue (Except SetupFault β)) : SessionDialogue (Except SetupFault β) :=
  d.bind fun
    | .ok a => next a
    | .error fault => .done (.error ⟨stage, fault⟩)

/-- Give a session back.  A session is no longer live once its release is
tried, and without a service there is nobody to give it back to. -/
def close (m : SessionManager) (s : Session) : SessionDialogue (Sourced Unit × SessionManager) :=
  let released := m.active.any fun live => live.sessionId = s.sessionId
  let m := if released then { m with active := none } else m
  match m.conn with
  | none => .done (.ok (), m)
  | some conn =>
    (SessionCall.deleteMessageSession conn s.poolId s.sessionId).ask.bind fun answer =>
      .done (answer, m)

/-- Register the pool with its canonical settings: in the place of the pool
that has its name, or as a new one. -/
def registerPool (conn : AdminConnection) (name : String) :
    SessionDialogue (Sourced RunnerPool) :=
  (SessionCall.getRunnerPool conn name).ask.bind fun answer =>
    match (answer : Sourced (Option RunnerPool)) with
    | .error fault => .done (.error fault)
    | .ok (some existing) =>
      (SessionCall.replaceRunnerPool conn existing.id (.canonical name)).ask
    | .ok none => (SessionCall.createRunnerPool conn (.canonical name)).ask

/-- Ask for a lease up to `retries` more times after the first. -/
def leaseQueue (conn : AdminConnection) (config : SessionConfig) (poolId : Int64) :
    Nat → SessionDialogue (Sourced Session)
  | 0 => (SessionCall.createMessageSession conn poolId config.ownerName).ask
  | retries + 1 =>
    (SessionCall.createMessageSession conn poolId config.ownerName).ask.bind fun answer =>
      match (answer : Sourced Session) with
      | .ok session => .done (.ok session)
      | .error _ =>
        .ask (S := SessionNeed.interface) (.wait config.createRetryDelay) fun _ =>
          leaseQueue conn config poolId retries

/-- Give the live session back, if there is one, and open another.  When a step
fails, the service and the pool of the session before stay as they were. -/
def openSession (m : SessionManager) :
    SessionDialogue (Except SetupFault Session × SessionManager) :=
  let start : SessionDialogue SessionManager :=
    match m.active with
    | none => .done m
    | some prior => (m.close prior).bind fun out => .done out.2
  start.bind fun m =>
    let name := m.config.identity.poolName
    let opened : SessionDialogue (Except SetupFault (AdminConnection × RunnerPool × Session)) :=
      step .adminHandshake (SessionCall.adminConnection m.config.identity).ask fun conn =>
        step .runnerPool (registerPool conn name) fun pool =>
          step .messageSession (leaseQueue conn m.config pool.id (m.config.attempts - 1))
            fun session => .done (.ok (conn, pool, { session with poolId := pool.id }))
    opened.bind fun
      | .error fault => .done (.error fault, m)
      | .ok (conn, pool, session) =>
        .done (.ok session, { m with conn := some conn, pool := some pool, active := some session })

/-- Ask for the service again and have the lease of a session issued anew; the
pool is left alone. -/
def refresh (m : SessionManager) (s : Session) :
    SessionDialogue (Except SetupFault Session × SessionManager) :=
  let refreshed : SessionDialogue (Except SetupFault (AdminConnection × Session)) :=
    step .adminHandshake (SessionCall.adminConnection m.config.identity).ask fun conn =>
      step .messageSession (SessionCall.refreshMessageSession conn s.poolId s.sessionId).ask
        fun session => .done (.ok (conn, { session with poolId := s.poolId }))
  refreshed.bind fun
    | .error fault => .done (.error fault, m)
    | .ok (conn, session) =>
      .done (.ok session, { m with conn := some conn, active := some session })

end SessionManager

end PoolScaler

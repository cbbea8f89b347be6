import PoolScaler.Dialogue
import PoolScaler.Source.Fault
import PoolScaler.Source.Wire
set_option autoImplicit false

/-!
# What the job source is asked

Two sets of questions: those of whoever holds a message session, and those of
whoever keeps the number of runners right.  Each is answered or fails with a
cause.
-/

namespace PoolScaler

/-- The answer to a question, or why there is none. -/
abbrev Sourced (α : Type) : Type := Except SourceFault α

/-- What the holder of a message session asks. -/
inductive SessionCall where
  /-- Ask for the service of a scope. -/
  | adminConnection (identity : Identity)
  /-- Look for the pool of a name. -/
  | getRunnerPool (conn : AdminConnection) (name : String)
  /-- Register a pool. -/
  | createRunnerPool (conn : AdminConnection) (pool : RunnerPool)
  /-- Put a pool in the place of another. -/
  | replaceRunnerPool (conn : AdminConnection) (poolId : Int64) (pool : RunnerPool)
  /-- Lease the message queue of a pool. -/
  | createMessageSession (conn : AdminConnection) (poolId : Int64) (owner : String)
  /-- Issue the lease of a session anew. -/
  | refreshMessageSession (conn : AdminConnection) (poolId : Int64) (sessionId : String)
  /-- Give a lease back. -/
  | deleteMessageSession (conn : AdminConnection) (poolId : Int64) (sessionId : String)
  /-- Wait for the next message after a cursor. -/
  | getMessage (queueUrl queueToken : String) (cursor : Int64)
  /-- Acknowledge a message. -/
  | deleteMessage (queueUrl queueToken : String) (messageId : Int64)
  /-- Claim jobs. -/
  | acquireJobs (conn : AdminConnection) (poolId : Int64) (queueToken : String)
      (ids : List RequestId)
  deriving Repr

/-- The name of a question's kind. -/
def SessionCall.name : SessionCall → String
  | adminConnection _ => "admin_connection"
  | getRunnerPool _ _ => "get_runner_pool"
  | createRunnerPool _ _ => "create_runner_pool"
  | replaceRunnerPool _ _ _ => "replace_runner_pool"
  | createMessageSession _ _ _ => "create_message_session"
  | refreshMessageSession _ _ _ => "refresh_message_session"
  | deleteMessageSession _ _ _ => "delete_message_session"
  | getMessage _ _ _ => "get_message"
  | deleteMessage _ _ _ => "delete_message"
  | acquireJobs _ _ _ _ => "acquire_jobs"

/-- What a question is about, as it is written down; of a service only the token
that opens it counts. -/
def SessionCall.arguments : SessionCall → List Json
  | adminConnection identity => [.str identity.scopeKey, .str identity.poolName]
  | getRunnerPool conn name => [.str conn.token, .str name]
  | createRunnerPool conn pool => [.str conn.token, pool.toJson]
  | replaceRunnerPool conn poolId pool => [.str conn.token, .ofInt64 poolId, pool.toJson]
  | createMessageSession conn poolId owner => [.str conn.token, .ofInt64 poolId, .str owner]
  | refreshMessageSession conn poolId sessionId =>
    [.str conn.token, .ofInt64 poolId, .str sessionId]
  | deleteMessageSession conn poolId sessionId =>
    [.str conn.token, .ofInt64 poolId, .str sessionId]
  | getMessage queueUrl queueToken cursor => [.str queueUrl, .str queueToken, .ofInt64 cursor]
  | deleteMessage queueUrl queueToken messageId =>
    [.str queueUrl, .str queueToken, .ofInt64 messageId]
  | acquireJobs conn poolId queueToken ids =>
    [.str conn.token, .ofInt64 poolId, .str queueToken, .list (ids.map .ofInt64)]

/-- What each question of a session holder is answered with. -/
def SessionCall.Value : SessionCall → Type
  | adminConnection _ => AdminConnection
  | getRunnerPool _ _ => Option RunnerPool
  | createRunnerPool _ _ => RunnerPool
  | replaceRunnerPool _ _ _ => RunnerPool
  | createMessageSession _ _ _ => Session
  | refreshMessageSession _ _ _ => Session
  | deleteMessageSession _ _ _ => Unit
  | getMessage _ _ _ => Option QueueMessage
  | deleteMessage _ _ _ => Unit
  | acquireJobs _ _ _ _ => List RequestId

/-- What the holder of a message session asks of its surroundings. -/
inductive SessionNeed where
  /-- Ask the job source. -/
  | source (call : SessionCall)
  /-- Let some time pass. -/
  | wait (span : Span)
  /-- Look at the clock. -/
  | clock
  /-- Tell the keeper of the pool about its demand. -/
  | tell (event : Demand.Event)
  deriving Repr

/-- What a session holder's needs are answered with. -/
def SessionNeed.Answer : SessionNeed → Type
  | source call => Sourced call.Value
  | wait _ => Unit
  | clock => Instant
  | tell _ => Unit

/-- The surroundings of a session holder. -/
def SessionNeed.interface : Interface := ⟨SessionNeed, SessionNeed.Answer⟩

/-- A dialogue of a session holder. -/
abbrev SessionDialogue (α : Type) : Type := Dialogue SessionNeed.interface α

/-- Ask the job source one question. -/
def SessionCall.ask (c : SessionCall) : SessionDialogue (Sourced c.Value) :=
  Dialogue.call (S := SessionNeed.interface) (.source c)

/-- What the keeper of a pool asks of the job source. -/
inductive RunnersCall where
  /-- Ask whether a runner is busy, and wait for the answer no longer than a
  span. -/
  | probe (identity : Identity) (runner : String) (limit : Span)
  /-- Ask for a token with which runners join the scope. -/
  | registrationToken (identity : Identity)
  deriving Repr

/-- What each question of a pool's keeper is answered with; a probe may remain
without answer. -/
def RunnersCall.Answer : RunnersCall → Type
  | probe _ _ _ => Option (Sourced RunnerStatus)
  | registrationToken _ => Sourced RegistrationToken

/-- The surroundings of a pool's keeper. -/
def RunnersCall.interface : Interface := ⟨RunnersCall, RunnersCall.Answer⟩

/-- A dialogue of a pool's keeper. -/
abbrev RunnersDialogue (α : Type) : Type := Dialogue RunnersCall.interface α

end PoolScaler

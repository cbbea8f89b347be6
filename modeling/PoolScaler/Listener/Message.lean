import PoolScaler.Json.Reader
import PoolScaler.Source.Wire
set_option autoImplicit false

/-!
# Messages of the queue

What the messages of a pool's queue tell about its jobs.  The body of a message
is JSON of a form that goes by the message's type; a type nobody knows is no
fault.
-/

namespace PoolScaler

/-- What a message tells. -/
inductive News where
  /-- Jobs wait and may be claimed. -/
  | available (ids : List RequestId)
  /-- A job was given to a runner of a pool; pool 0 is any. -/
  | assigned (id : RequestId) (poolId : Int64) (jobId : Option String)
  /-- A job has ended. -/
  | completed (id : RequestId) (result runnerName : Option String)
  /-- Something of another type. -/
  | unknown (kind : String)
  deriving DecidableEq, Repr, Inhabited

/-- A message with its body read. -/
structure Message where
  id : Int64
  news : News
  deriving DecidableEq, Repr, Inhabited

/-- A message whose body cannot be read. -/
structure MessageFault where
  id : Int64
  kind : String
  deriving DecidableEq, Repr, Inhabited

/-- The wording of a fault. -/
def MessageFault.message (f : MessageFault) : String :=
  "malformed " ++ f.kind ++ " message " ++ toString f.id.toInt

namespace Message

/-- The requests of waiting jobs: a list of them, and one more unless it is in
the list. -/
def availableFields : Json.Fields News :=
  (fun (ids : List RequestId) (one : Option RequestId) =>
      match one with
      | some id => .available (if ids.contains id then ids else ids ++ [id])
      | none => .available ids)
    <$> .defaulted "runnerRequestIds" (Json.asList Json.asInt64) []
    <*> .defaulted "runnerRequestId" (Json.asOption Json.asInt64) none

/-- The request of an assigned job. -/
def assignedFields : Json.Fields News :=
  News.assigned
    <$> .required "runnerRequestId" Json.asInt64
    <*> .defaulted "runnerScaleSetId" Json.asInt64 0
    <*> .defaulted "jobId" (Json.asOption Json.asText) none

/-- The request of a completed job. -/
def completedFields : Json.Fields News :=
  News.completed
    <$> .required "runnerRequestId" Json.asInt64
    <*> .defaulted "result" (Json.asOption Json.asText) none
    <*> .defaulted "runnerName" (Json.asOption Json.asText) none

/-- The form of the body that belongs to a message type. -/
def bodyFields? (kind : String) : Option (Json.Fields News) :=
  if kind = "RunnerScaleSetJobAvailable" then some availableFields
  else if kind = "RunnerScaleSetJobAssigned" then some assignedFields
  else if kind = "RunnerScaleSetJobCompleted" then some completedFields
  else none

/-- What a message of the queue tells. -/
def parse (raw : QueueMessage) : Except MessageFault Message :=
  match bodyFields? raw.kind with
  | none => .ok ⟨raw.id, .unknown raw.kind⟩
  | some fields =>
    match Json.decodeText fields.read raw.body with
    | .ok news => .ok ⟨raw.id, news⟩
    | .error _ => .error ⟨raw.id, raw.kind⟩

end Message

end PoolScaler

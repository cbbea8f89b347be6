import PoolScaler.Demand.Tracker
set_option autoImplicit false

/-!
# What goes over the wire

The records that are exchanged with the job source, each with its JSON form,
and what is made of them.
-/

namespace PoolScaler

/-- Where the service of a scope is, and the token that opens it. -/
structure AdminConnection where
  url : String
  token : String
  deriving DecidableEq, Repr, Inhabited

namespace AdminConnection

/-- The fields of a connection. -/
def fields : Json.Fields AdminConnection :=
  AdminConnection.mk
    <$> .required "url" Json.asText
    <*> .required "token" Json.asText

/-- A connection as it is written. -/
def toJson (c : AdminConnection) : Json :=
  .object [("url", .str c.url), ("token", .str c.token)]

end AdminConnection

/-! ## Pools of runners -/

/-- A label of a runner pool. -/
structure Label where
  name : String
  kind : String
  deriving DecidableEq, Repr, Inhabited

namespace Label

/-- The fields of a label. -/
def fields : Json.Fields Label :=
  Label.mk
    <$> .required "name" Json.asText
    <*> .required "type" Json.asText

/-- A label as it is written. -/
def toJson (l : Label) : Json := .object [("name", .str l.name), ("type", .str l.kind)]

end Label

/-- How the runners of a pool behave. -/
structure RunnerSetting where
  /-- A runner takes one job and ends. -/
  ephemeral : Bool
  /-- A runner does not replace its own program. -/
  disableUpdate : Bool
  deriving DecidableEq, Repr, Inhabited

namespace RunnerSetting

/-- Neither setting is on. -/
def plain : RunnerSetting := ⟨false, false⟩

/-- The fields of a setting. -/
def fields : Json.Fields RunnerSetting :=
  RunnerSetting.mk
    <$> .defaulted "ephemeral" Json.asBool false
    <*> .defaulted "disableUpdate" Json.asBool false

/-- A setting as it is written. -/
def toJson (s : RunnerSetting) : Json :=
  .object [("ephemeral", .bool s.ephemeral), ("disableUpdate", .bool s.disableUpdate)]

end RunnerSetting

/-- A pool of runners as it is registered at the job source. -/
structure RunnerPool where
  id : Int64
  name : String
  groupId : Int64
  labels : List Label
  setting : RunnerSetting
  deriving DecidableEq, Repr, Inhabited

namespace RunnerPool

/-- What every pool is registered as: in the first group, under a label of its
own name, its runners taking one job each and not updating themselves. -/
def canonical (name : String) : RunnerPool :=
  { id := 0
    name := name
    groupId := 1
    labels := [⟨name, "User"⟩]
    setting := ⟨true, true⟩ }

/-- The fields of a pool. -/
def fields : Json.Fields RunnerPool :=
  RunnerPool.mk
    <$> .defaulted "id" Json.asInt64 0
    <*> .required "name" Json.asText
    <*> .defaulted "runnerGroupId" Json.asInt64 0
    <*> .defaulted "labels" (Json.asList Label.fields.read) []
    <*> .defaulted "runnerSetting" RunnerSetting.fields.read .plain

/-- A pool as it is written. -/
def toJson (p : RunnerPool) : Json :=
  .object [
    ("id", .ofInt64 p.id),
    ("name", .str p.name),
    ("runnerGroupId", .ofInt64 p.groupId),
    ("labels", .list (p.labels.map Label.toJson)),
    ("runnerSetting", p.setting.toJson)]

end RunnerPool

/-! ## Message sessions -/

/-- A lease on a pool's message queue as the source grants it. -/
structure SessionLease where
  sessionId : String
  ownerName : String
  pool : RunnerPool
  queueUrl : String
  queueToken : String
  deriving DecidableEq, Repr, Inhabited

namespace SessionLease

/-- The fields of a lease. -/
def fields : Json.Fields SessionLease :=
  SessionLease.mk
    <$> .required "sessionId" Json.asText
    <*> .defaulted "ownerName" Json.asText ""
    <*> .required "runnerScaleSet" RunnerPool.fields.read
    <*> .required "messageQueueUrl" Json.asText
    <*> .required "messageQueueAccessToken" Json.asText

/-- A lease as it is written. -/
def toJson (l : SessionLease) : Json :=
  .object [
    ("sessionId", .str l.sessionId),
    ("ownerName", .str l.ownerName),
    ("runnerScaleSet", l.pool.toJson),
    ("messageQueueUrl", .str l.queueUrl),
    ("messageQueueAccessToken", .str l.queueToken)]

end SessionLease

/-- A live session on a pool's message queue. -/
structure Session where
  poolId : Int64
  sessionId : String
  ownerName : String
  queueUrl : String
  queueToken : String
  /-- When the queue token lapses, if the token tells. -/
  queueTokenExpiry : Option Instant
  deriving DecidableEq, Repr, Inhabited

/-- A session as it is written down. -/
def Session.toJson (s : Session) : Json :=
  .object [
    ("pool_id", .ofInt64 s.poolId),
    ("session_id", .str s.sessionId),
    ("owner_name", .str s.ownerName),
    ("queue_url", .str s.queueUrl),
    ("queue_token", .str s.queueToken),
    ("queue_token_expiry", .ofOption .ofUInt64 s.queueTokenExpiry)]

/-- A message of the queue as it comes. -/
structure QueueMessage where
  id : Int64
  kind : String
  body : String
  deriving DecidableEq, Repr, Inhabited

namespace QueueMessage

/-- The fields of a message. -/
def fields : Json.Fields QueueMessage :=
  QueueMessage.mk
    <$> .required "messageId" Json.asInt64
    <*> .required "messageType" Json.asText
    <*> .defaulted "body" Json.asText ""

/-- A message as it is written. -/
def toJson (m : QueueMessage) : Json :=
  .object [
    ("messageId", .ofInt64 m.id),
    ("messageType", .str m.kind),
    ("body", .str m.body)]

end QueueMessage

/-! ## Lists, tokens and runners -/

/-- A list with the count the source gives it. -/
structure Listing (α : Type) where
  count : UInt64
  value : List α
  deriving DecidableEq, Repr, Inhabited

namespace Listing

variable {α : Type}

/-- The fields of a list whose items are read by `dec`. -/
def fields (dec : Json.Decoder α) : Json.Fields (Listing α) :=
  Listing.mk
    <$> .defaulted "count" Json.asUInt64 0
    <*> .defaulted "value" (Json.asList dec) []

/-- A list as it is written. -/
def toJson (write : α → Json) (l : Listing α) : Json :=
  .object [("count", .ofUInt64 l.count), ("value", .list (l.value.map write))]

end Listing

/-- A token that the source has issued, with its expiration time as written. -/
structure IssuedToken where
  token : String
  expiresAt : String
  deriving DecidableEq, Repr, Inhabited

/-- The fields of an issued token. -/
def IssuedToken.fields : Json.Fields IssuedToken :=
  IssuedToken.mk
    <$> .required "token" Json.asText
    <*> .required "expires_at" Json.asText

/-- One runner of a listing. -/
structure RunnerEntry where
  name : String
  status : String
  busy : Bool
  deriving DecidableEq, Repr, Inhabited

/-- The fields of a listed runner. -/
def RunnerEntry.fields : Json.Fields RunnerEntry :=
  RunnerEntry.mk
    <$> .required "name" Json.asText
    <*> .defaulted "status" Json.asText ""
    <*> .defaulted "busy" Json.asBool false

/-- One page of the runners of a scope. -/
structure RunnerPage where
  runners : List RunnerEntry
  deriving DecidableEq, Repr, Inhabited

/-- The fields of a page of runners. -/
def RunnerPage.fields : Json.Fields RunnerPage :=
  RunnerPage.mk <$> .defaulted "runners" (Json.asList RunnerEntry.fields.read) []

/-- Whether a connected runner has a job. -/
structure RunnerStatus where
  busy : Bool
  deriving DecidableEq, Repr, Inhabited

/-- A token with which new runners join a scope. -/
structure RegistrationToken where
  token : String
  expiresAt : Instant
  deriving DecidableEq, Repr, Inhabited

end PoolScaler

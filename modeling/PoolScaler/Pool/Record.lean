import PoolScaler.Json.Fields
import PoolScaler.Keyed
import PoolScaler.Pool.Identity
set_option autoImplicit false

/-!
# Pools and their pods as they are kept

A pool record holds what the pool should be, its spec, and what it was last
seen to be, its status.  A pod record is one worker.  Each record has one JSON
form.
-/

namespace PoolScaler

/-- Seconds of Unix time. -/
abbrev Instant := UInt64

/-- Labels or environment variables. -/
abbrev Pairs := Keyed String

namespace Pairs

/-- A map from texts to texts; of two values under one name the later counts. -/
def decoder : Json.Decoder Pairs := fun j =>
  (Json.asEntries Json.asText j).map Keyed.ofList

/-- A map as it is stored. -/
def toJson (m : Pairs) : Json := .object (m.entries.map fun e => (e.1, .str e.2))

end Pairs

namespace Json

/-- A number that may be absent. -/
def ofOption {α : Type} (write : α → Json) : Option α → Json
  | none => .null
  | some a => write a

/-- An unsigned number of 32 bits. -/
def ofUInt32 (n : UInt32) : Json := .int n.toNat

/-- An unsigned number of 64 bits. -/
def ofUInt64 (n : UInt64) : Json := .int n.toNat

/-- A signed number of 64 bits. -/
def ofInt64 (n : Int64) : Json := .int n.toInt

end Json

/-! ## Pools -/

/-- What every pod of a pool is made from. -/
structure PodTemplate where
  image : String
  labels : Pairs
  env : Pairs
  deriving DecidableEq, Repr, Inhabited

namespace PodTemplate

/-- The fields of a stored template. -/
def fields : Json.Fields PodTemplate :=
  PodTemplate.mk
    <$> .required "image" Json.asText
    <*> .defaulted "labels" Pairs.decoder .empty
    <*> .defaulted "env" Pairs.decoder .empty

/-- A template as it is stored. -/
def toJson (t : PodTemplate) : Json :=
  .object [("image", .str t.image), ("labels", t.labels.toJson), ("env", t.env.toJson)]

end PodTemplate

/-- What a pool should be. -/
structure PoolSpec where
  name : String
  identity : Identity
  /-- Fewer pods than this are never wanted. -/
  minReplicas : UInt32
  /-- More pods than this are never wanted, if there is a limit. -/
  maxReplicas : Option UInt32
  template : PodTemplate
  createdAt : Instant
  deriving DecidableEq, Repr, Inhabited

namespace PoolSpec

/-- The fields of a stored spec. -/
def fields : Json.Fields PoolSpec :=
  PoolSpec.mk
    <$> .required "name" Json.asText
    <*> .required "identity" Identity.fields.read
    <*> .required "min_replicas" Json.asUInt32
    <*> .optional "max_replicas" Json.asUInt32
    <*> .required "template" PodTemplate.fields.read
    <*> .required "created_at" Json.asUInt64

/-- A spec as it is stored. -/
def toJson (s : PoolSpec) : Json :=
  .object [
    ("name", .str s.name),
    ("identity", s.identity.toJson),
    ("min_replicas", .ofUInt32 s.minReplicas),
    ("max_replicas", .ofOption .ofUInt32 s.maxReplicas),
    ("template", s.template.toJson),
    ("created_at", .ofUInt64 s.createdAt)]

end PoolSpec

/-- A claim on capacity that no worker backs yet and that lapses. -/
structure Reservation where
  name : String
  replicas : UInt32
  expirationTime : Instant
  deriving DecidableEq, Repr, Inhabited

namespace Reservation

/-- A reservation no longer counts from its expiration time on. -/
def isExpired (r : Reservation) (now : Instant) : Bool := r.expirationTime ≤ now

/-- The fields of a stored reservation. -/
def fields : Json.Fields Reservation :=
  Reservation.mk
    <$> .required "name" Json.asText
    <*> .required "replicas" Json.asUInt32
    <*> .required "expiration_time" Json.asUInt64

/-- A reservation as it is stored. -/
def toJson (r : Reservation) : Json :=
  .object [
    ("name", .str r.name),
    ("replicas", .ofUInt32 r.replicas),
    ("expiration_time", .ofUInt64 r.expirationTime)]

end Reservation

/-- What a pool was last seen to be. -/
structure PoolStatus where
  desiredReplicas : UInt32
  /-- Pods of the pool in any phase. -/
  availableReplicas : UInt32
  /-- Pods of the pool that run. -/
  readyReplicas : UInt32
  reservations : List Reservation
  lastScaleUpAt : Option Instant
  updatedAt : Instant
  deriving DecidableEq, Repr, Inhabited

namespace PoolStatus

/-- The status of a pool that nobody has looked at. -/
def initial : PoolStatus := ⟨0, 0, 0, [], none, 0⟩

/-- The fields of a stored status. -/
def fields : Json.Fields PoolStatus :=
  PoolStatus.mk
    <$> .required "desired_replicas" Json.asUInt32
    <*> .required "available_replicas" Json.asUInt32
    <*> .required "ready_replicas" Json.asUInt32
    <*> .defaulted "capacity_reservations" (Json.asList Reservation.fields.read) []
    <*> .defaulted "last_scale_up_at" (Json.asOption Json.asUInt64) none
    <*> .required "updated_at" Json.asUInt64

/-- A status as it is stored. -/
def toJson (s : PoolStatus) : Json :=
  .object [
    ("desired_replicas", .ofUInt32 s.desiredReplicas),
    ("available_replicas", .ofUInt32 s.availableReplicas),
    ("ready_replicas", .ofUInt32 s.readyReplicas),
    ("capacity_reservations", .list (s.reservations.map Reservation.toJson)),
    ("last_scale_up_at", .ofOption .ofUInt64 s.lastScaleUpAt),
    ("updated_at", .ofUInt64 s.updatedAt)]

end PoolStatus

/-- A pool: what it should be and what it was last seen to be. -/
structure PoolRecord where
  spec : PoolSpec
  status : PoolStatus
  deriving DecidableEq, Repr, Inhabited

namespace PoolRecord

/-- The record of a pool that nobody has looked at. -/
def new (spec : PoolSpec) : PoolRecord := ⟨spec, .initial⟩

/-- The key of a pool in its table is its name. -/
def tableKey (r : PoolRecord) : String := r.spec.name

/-- The fields of a stored pool. -/
def fields : Json.Fields PoolRecord :=
  PoolRecord.mk
    <$> .required "spec" PoolSpec.fields.read
    <*> .defaulted "status" PoolStatus.fields.read .initial

/-- A pool as it is stored. -/
def toJson (r : PoolRecord) : Json :=
  .object [("spec", r.spec.toJson), ("status", r.status.toJson)]

end PoolRecord

/-! ## Pods -/

/-- Where a pod is in its life. -/
inductive Phase where
  /-- Created, not yet running. -/
  | pending
  /-- Running. -/
  | running
  /-- Ended well. -/
  | succeeded
  /-- Ended badly. -/
  | failed
  deriving DecidableEq, Repr, Inhabited

namespace Phase

/-- The word of a phase. -/
def word : Phase → String
  | pending => "pending"
  | running => "running"
  | succeeded => "succeeded"
  | failed => "failed"

/-- Every phase under its word. -/
def words : List (String × Phase) :=
  [pending, running, succeeded, failed].map fun p => (p.word, p)

/-- The pod has ended. -/
def isFinished : Phase → Bool
  | succeeded | failed => true
  | pending | running => false

/-- A stored phase. -/
def decoder : Json.Decoder Phase := Json.asWord words

/-- A phase as it is stored. -/
def toJson (p : Phase) : Json := .str p.word

end Phase

/-- One worker of a pool. -/
structure Pod where
  name : String
  /-- The name of the pool the pod belongs to. -/
  owner : String
  phase : Phase
  image : String
  labels : Pairs
  env : Pairs
  createdAt : Instant
  deriving DecidableEq, Repr, Inhabited

namespace Pod

/-- The key of a pod of a pool. -/
def key (pool pod : String) : String := pool ++ ":" ++ pod

/-- The key of a pod in its table. -/
def tableKey (p : Pod) : String := key p.owner p.name

/-- The age of a pod in seconds; a pod from the future has none. -/
def age (p : Pod) (now : Instant) : Nat := now.toNat - p.createdAt.toNat

/-- The fields of a stored pod. -/
def fields : Json.Fields Pod :=
  Pod.mk
    <$> .required "name" Json.asText
    <*> .required "owner" Json.asText
    <*> .required "phase" Phase.decoder
    <*> .required "image" Json.asText
    <*> .required "labels" Pairs.decoder
    <*> .required "env" Pairs.decoder
    <*> .required "created_at" Json.asUInt64

/-- A pod as it is stored. -/
def toJson (p : Pod) : Json :=
  .object [
    ("name", .str p.name),
    ("owner", .str p.owner),
    ("phase", p.phase.toJson),
    ("image", .str p.image),
    ("labels", p.labels.toJson),
    ("env", p.env.toJson),
    ("created_at", .ofUInt64 p.createdAt)]

end Pod

end PoolScaler

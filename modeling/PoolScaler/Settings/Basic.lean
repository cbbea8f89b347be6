import PoolScaler.Keyed
import PoolScaler.Toml.Fields
import PoolScaler.Toml.Reader
set_option autoImplicit false

/-!
# Settings

The settings of the program: where the job source is and how to show who asks,
the one pool to keep, how to scale it, how to hold its session and where to
keep its state.  All but the source and the pool may be left out.
-/

namespace PoolScaler.Settings

/-- An app, with its key in a file. -/
structure App where
  appId : Int64
  installationId : Int64
  privateKeyPath : String
  deriving DecidableEq, Repr, Inhabited

/-- A name and a password. -/
structure Login where
  username : String
  password : String
  deriving DecidableEq, Repr, Inhabited

/-- The job source and who asks. -/
structure Source where
  url : String
  apiUrl : Option String
  token : Option String
  app : Option App
  basicAuth : Option Login
  deriving DecidableEq, Repr, Inhabited

/-- The pool to keep. -/
structure Pool where
  name : String
  enterprise : String
  organization : String
  repository : String
  minReplicas : UInt32
  maxReplicas : Option UInt32
  image : String
  labels : Keyed String
  env : Keyed String
  deriving DecidableEq, Repr, Inhabited

/-- How to scale the pool; spans of time as they are written. -/
structure Scaling where
  scaleDownDelay : String
  registrationTimeout : String
  rateLimitBackoff : String
  reservationTtl : String
  syncPeriod : String
  probeTimeout : String
  deriving DecidableEq, Repr, Inhabited

/-- How to hold the session. -/
structure Lease where
  createAttempts : UInt32
  createRetryDelay : String
  /-- The name the lease is registered under, unless it is the machine's. -/
  ownerName : Option String
  deriving DecidableEq, Repr, Inhabited

/-- Where to keep the state. -/
structure State where
  dataDir : String
  deriving DecidableEq, Repr, Inhabited

/-! ## Reading sections -/

open Toml (Fields)

/-- The section of an app. -/
def App.fields : Fields App := do
  let appId ← .required "app_id" Toml.asInt64
  let installationId ← .required "installation_id" Toml.asInt64
  let privateKeyPath ← .required "private_key_path" Toml.asText
  return ⟨appId, installationId, privateKeyPath⟩

/-- The section of a name and a password. -/
def Login.fields : Fields Login := do
  let username ← .required "username" Toml.asText
  let password ← .required "password" Toml.asText
  return ⟨username, password⟩

/-- The section of the job source. -/
def Source.fields : Fields Source := do
  let url ← .defaulted "url" Toml.asText "https://github.com"
  let apiUrl ← .optional "api_url" Toml.asText
  let token ← .optional "token" Toml.asText
  let app ← .optional "app" App.fields.read
  let basicAuth ← .optional "basic_auth" Login.fields.read
  return ⟨url, apiUrl, token, app, basicAuth⟩

/-- Texts under keys, as a map. -/
def pairs : Toml.Decoder (Keyed String) := fun v => (Toml.asTexts v).map Keyed.ofList

/-- The section of the pool. -/
def Pool.fields : Fields Pool := do
  let name ← .required "name" Toml.asText
  let enterprise ← .defaulted "enterprise" Toml.asText ""
  let organization ← .defaulted "organization" Toml.asText ""
  let repository ← .defaulted "repository" Toml.asText ""
  let minReplicas ← .defaulted "min_replicas" Toml.asUInt32 0
  let maxReplicas ← .optional "max_replicas" Toml.asUInt32
  let image ← .required "image" Toml.asText
  let labels ← .defaulted "labels" pairs .empty
  let env ← .defaulted "env" pairs .empty
  return ⟨name, enterprise, organization, repository, minReplicas, maxReplicas, image, labels, env⟩

/-- How a pool is scaled unless it is said otherwise. -/
def Scaling.usual : Scaling := ⟨"10m", "15m", "3m", "10m", "1m", "30s"⟩

/-- The section of scaling. -/
def Scaling.fields : Fields Scaling := do
  let field (name default : String) : Fields String := .defaulted name Toml.asText default
  let scaleDownDelay ← field "scale_down_delay" usual.scaleDownDelay
  let registrationTimeout ← field "registration_timeout" usual.registrationTimeout
  let rateLimitBackoff ← field "rate_limit_backoff" usual.rateLimitBackoff
  let reservationTtl ← field "reservation_ttl" usual.reservationTtl
  let syncPeriod ← field "sync_period" usual.syncPeriod
  let probeTimeout ← field "probe_timeout" usual.probeTimeout
  return ⟨scaleDownDelay, registrationTimeout, rateLimitBackoff, reservationTtl, syncPeriod,
    probeTimeout⟩

/-- How a session is held unless it is said otherwise. -/
def Lease.usual : Lease := ⟨3, "30s", none⟩

/-- The section of the session. -/
def Lease.fields : Fields Lease := do
  let createAttempts ← .defaulted "create_attempts" Toml.asUInt32 usual.createAttempts
  let createRetryDelay ← .defaulted "create_retry_delay" Toml.asText usual.createRetryDelay
  let ownerName ← .defaulted "owner_name" (fun v => (Toml.asText v).map some) usual.ownerName
  return ⟨createAttempts, createRetryDelay, ownerName⟩

/-- Where state is kept unless it is said otherwise. -/
def State.usual : State := ⟨"/var/lib/runnerfleet"⟩

/-- The section of the state. -/
def State.fields : Fields State := do
  let dataDir ← .defaulted "data_dir" Toml.asText usual.dataDir
  return ⟨dataDir⟩

end Settings

/-- The settings of the program. -/
structure Settings where
  source : Settings.Source
  pool : Settings.Pool
  scaling : Settings.Scaling
  lease : Settings.Lease
  state : Settings.State
  deriving DecidableEq, Repr, Inhabited

namespace Settings

/-- The sections of the settings. -/
def fields : Toml.Fields Settings := do
  let source ← .required "github" Source.fields.read
  let pool ← .required "pool" Pool.fields.read
  let scaling ← .defaulted "scaling" Scaling.fields.read .usual
  let lease ← .defaulted "session" Lease.fields.read .usual
  let state ← .defaulted "state" State.fields.read .usual
  return ⟨source, pool, scaling, lease, state⟩

/-- The settings in a text, if it holds any. -/
def parse? (text : String) : Option Settings := (Toml.read? text).bind fields.read

end PoolScaler.Settings

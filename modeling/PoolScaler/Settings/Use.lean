import PoolScaler.Listener.Manager
import PoolScaler.Pool.Scope
import PoolScaler.Reconcile.Basic
import PoolScaler.Settings.Basic
import PoolScaler.Source.Api
import PoolScaler.Source.Credentials
set_option autoImplicit false

/-!
# What settings mean

The parts of the program are set up from the settings, one function for each.
Checking the settings looks at everything that can be looked at without files
and without the network.
-/

namespace PoolScaler.Settings

/-- Why settings cannot be used. -/
inductive Fault where
  /-- A file cannot be read as a text. -/
  | read (path : String)
  /-- A text holds no settings. -/
  | parse
  /-- A text is no span of time. -/
  | span (field text : String)
  /-- The settings contradict themselves or lack something. -/
  | invalid (reason : String)
  /-- They say nothing the job source could work with. -/
  | source (fault : SourceFault)
  deriving DecidableEq, Repr, Inhabited

/-- The wording of a fault. -/
def Fault.message : Fault → String
  | read path => "failed to read " ++ path
  | parse => "failed to parse config"
  | span field text => "invalid duration for " ++ field ++ ": " ++ Text.Quoted.quote text
  | invalid reason => "invalid config: " ++ reason
  | source fault => fault.message

/-- A way to read files: the text of a path. -/
abbrev Files : Type := String → Option String

/-- The settings in a file. -/
def load (files : Files) (path : String) : Except Fault Settings :=
  match files path with
  | none => .error (.read path)
  | some text =>
    match parse? text with
    | some s => .ok s
    | none => .error .parse

/-- The span that a setting denotes. -/
def span (field text : String) : Except Fault Span :=
  match Span.parse? text with
  | some s => .ok s
  | none => .error (.span field text)

/-- Whom the pool serves. -/
def identity (s : Settings) : Identity :=
  ⟨s.pool.enterprise, s.pool.organization, s.pool.repository, s.pool.name⟩

/-- What the pool should be. -/
def poolSpec (s : Settings) (now : Instant) : PoolSpec :=
  { name := s.pool.name
    identity := s.identity
    minReplicas := s.pool.minReplicas
    maxReplicas := s.pool.maxReplicas
    template := ⟨s.pool.image, s.pool.labels, s.pool.env⟩
    createdAt := now }

/-- The name the program sends with its requests. -/
def userAgent : String := "runnerfleet/0.1.0"

/-- How to talk to the job source. -/
def clientConfig (s : Settings) : ClientConfig :=
  { webUrl := s.source.url
    statedApiUrl := s.source.apiUrl
    userAgent := userAgent
    requestTimeout := .ofSeconds 30
    longPollTimeout := .ofSeconds 90 }

/-- The app with its key, which must be readable even if it is not used. -/
def appKey (s : Settings) (files : Files) : Except Fault (Option AppKey) :=
  match s.source.app with
  | none => .ok none
  | some app =>
    match files app.privateKeyPath with
    | some key => .ok (some ⟨app.appId, app.installationId, key⟩)
    | none => .error (.read app.privateKeyPath)

/-- The name and the password. -/
def basicAuth (s : Settings) : Option BasicAuth :=
  s.source.basicAuth.map fun l => ⟨l.username, l.password⟩

/-- How to show who asks. -/
def credentials (s : Settings) (files : Files) : Except Fault Credentials :=
  match s.appKey files with
  | .error fault => .error fault
  | .ok key =>
    match Credentials.select s.source.token s.basicAuth key with
    | .ok c => .ok c
    | .error fault => .error (.source fault)

/-- How to keep the pool. -/
def reconcileConfig (s : Settings) : Except Fault Reconcile.Config := do
  let scaleDownDelay ← span "scaling.scale_down_delay" s.scaling.scaleDownDelay
  let registrationTimeout ← span "scaling.registration_timeout" s.scaling.registrationTimeout
  let rateLimitBackoff ← span "scaling.rate_limit_backoff" s.scaling.rateLimitBackoff
  let probeTimeout ← span "scaling.probe_timeout" s.scaling.probeTimeout
  return {
    webUrl := s.source.url
    scaleDownDelay := scaleDownDelay
    registrationTimeout := registrationTimeout
    rateLimitBackoff := rateLimitBackoff
    probeTimeout := probeTimeout }

/-- How to hold the session; the machine's name stands in for an owner. -/
def sessionConfig (s : Settings) (machine : String) : Except Fault SessionConfig := do
  let delay ← span "session.create_retry_delay" s.lease.createRetryDelay
  return {
    identity := s.identity
    ownerName := s.lease.ownerName.getD machine
    createAttempts := s.lease.createAttempts
    createRetryDelay := delay }

/-- How long a reservation lasts. -/
def reservationTtl (s : Settings) : Except Fault Span :=
  span "scaling.reservation_ttl" s.scaling.reservationTtl

/-- How often to look at the pool without being told to. -/
def syncPeriod (s : Settings) : Except Fault Span := do
  let period ← span "scaling.sync_period" s.scaling.syncPeriod
  if period = .zero then .error (.invalid "scaling.sync_period must be positive")
  else return period

/-! ## Checking -/

/-- The settings name a way to show who asks. -/
def hasCredentials (s : Settings) : Bool :=
  s.source.token.any (fun t => !t.isEmpty) || s.source.app.isSome
    || s.source.basicAuth.any fun l => !l.username.isEmpty && !l.password.isEmpty

/-- A condition that must hold. -/
def demand (holds : Bool) (reason : String) : Except Fault Unit :=
  if holds then .ok () else .error (.invalid reason)

/-- The limits of the pool's size do not contradict each other. -/
def checkSize (p : Pool) : Except Fault Unit :=
  match p.maxReplicas with
  | none => .ok ()
  | some most =>
    demand (p.minReplicas ≤ most)
      ("pool.min_replicas (" ++ toString p.minReplicas.toNat ++ ") exceeds pool.max_replicas ("
        ++ toString most.toNat ++ ")")

/-- The pool has a scope. -/
def checkScope (s : Settings) : Except Fault Unit :=
  match Scope.ofIdentity s.identity with
  | .ok _ => .ok ()
  | .error fault => .error (.source fault)

/-- Check everything that can be looked at without files and the network, and
report the first thing that is wrong. -/
def validate (s : Settings) : Except Fault Unit := do
  demand (!Text.blank s.pool.name) "pool.name is empty"
  demand (!Text.blank s.pool.image) "pool.image is empty"
  s.checkScope
  checkSize s.pool
  demand (s.lease.createAttempts ≠ 0) "session.create_attempts must be at least 1"
  let _ ← s.reconcileConfig
  let _ ← s.reservationTtl
  let _ ← s.syncPeriod
  let _ ← span "session.create_retry_delay" s.lease.createRetryDelay
  demand s.hasCredentials
    "one of github.token, [github.app] or [github.basic_auth] is required"

end PoolScaler.Settings

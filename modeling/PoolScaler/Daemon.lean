import PoolScaler.Settings.Use
import PoolScaler.Source.Client
import PoolScaler.Store.Basic
set_option autoImplicit false

/-!
# The daemon

What has to be done before the daemon can work: its pool is registered in the
store, and its parts are set up from the settings in a fixed order, the first
that fails being reported.
-/

namespace PoolScaler.Daemon

/-- Why the daemon ends other than by being told to. -/
inductive Fault where
  /-- The settings cannot be used. -/
  | settings (fault : Settings.Fault)
  /-- There can be no directory for the state. -/
  | directory (path : String)
  /-- The store failed. -/
  | state (fault : StoreFault)
  /-- There can be no client. -/
  | client (fault : SourceFault)
  /-- There can be no listener. -/
  | listener (complaint : String)
  /-- The listener got no session. -/
  | setup (fault : SetupFault)
  deriving DecidableEq, Repr, Inhabited

/-- The wording of a fault. -/
def Fault.message : Fault → String
  | settings fault => fault.message
  | directory path => "failed to create " ++ path
  | state fault => fault.message
  | client fault => fault.message
  | listener complaint => SessionConfig.refusal complaint
  | setup fault => fault.message

/-- The name of the store's file in the directory for the state. -/
def storeFile : String := "runnerfleet.redb"

/-- The name of the machine, or what stands in for it. -/
def machineName (host : Option String) : String :=
  (host.filter fun name => !name.isEmpty).getD "fleetd"

/-- Register the pool of the settings.  A pool that is there already keeps the
time of its creation and its status. -/
def register (s : Settings) (now : Instant) (store : Store) : Except StoreFault Store :=
  match store.getPool s.pool.name with
  | .error fault => .error fault
  | .ok none => .ok (store.putPool (.new (s.poolSpec now)))
  | .ok (some existing) =>
    .ok (store.putPool ⟨s.poolSpec existing.spec.createdAt, existing.status⟩)

/-- The parts of a daemon. -/
structure Parts where
  client : Client
  /-- How long a reservation lasts. -/
  reservationTtl : Span
  reconcile : Reconcile.Config
  session : SessionConfig
  /-- How often to look at the pool without being told to. -/
  syncPeriod : Span
  deriving DecidableEq, Repr, Inhabited

/-- Report a fault of the settings as one of the daemon. -/
def lift {α : Type} : Except Settings.Fault α → Except Fault α
  | .ok a => .ok a
  | .error fault => .error (.settings fault)

/-- The client of a daemon. -/
def clientOf (s : Settings) (c : Credentials) : Except Fault Client :=
  match Client.make? s.clientConfig c with
  | .ok client => .ok client
  | .error fault => .error (.client fault)

/-- A configuration the listener accepts. -/
def accepted (c : SessionConfig) : Except Fault SessionConfig :=
  match c.complaint? with
  | none => .ok c
  | some complaint => .error (.listener complaint)

/-- The parts of a daemon on a machine. -/
def parts (s : Settings) (files : Settings.Files) (machine : String) : Except Fault Parts := do
  let credentials ← lift (s.credentials files)
  let client ← clientOf s credentials
  let reservationTtl ← lift s.reservationTtl
  let reconcile ← lift s.reconcileConfig
  let session ← lift (s.sessionConfig machine)
  let session ← accepted session
  let syncPeriod ← lift s.syncPeriod
  return ⟨client, reservationTtl, reconcile, session, syncPeriod⟩

end PoolScaler.Daemon

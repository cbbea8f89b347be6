import PoolScaler.Daemon
import PoolScaler.Listener.Loop
import PoolScaler.Reconcile.Pass
import PoolScaler.Reconcile.Schedule
import PoolScaler.Simulation.Files
import PoolScaler.Simulation.Network
set_option autoImplicit false

/-!
# A daemon at work

The listener and the keeper of a daemon on one scripted network.  Whenever the
listener has sent a request, the keeper does what there is to do before the
listener hears the answer.  No time passes, so the keeper makes its first pass
and then only those that news of demand asks for.
-/

namespace PoolScaler.Simulation

open Reconcile (Stage Timer)

/-- A daemon with all that it works on. -/
structure DaemonStage where
  network : Network
  stage : Stage
  timer : Timer
  /-- The daemon has been told to stop. -/
  stopped : Bool

namespace DaemonStage

/-- One pass of the keeper. -/
def pass (parts : Daemon.Parts) (pool : String) (s : DaemonStage) : DaemonStage :=
  let dialogue := (Reconcile.pass parts.reconcile pool s.network.today s.stage).through parts.client.runners
  let out := dialogue.run Network.surroundings s.network
  { s with
    network := out.state
    stage := out.result.2
    timer := .after parts.syncPeriod 0 out.result.1 }

/-- Let the keeper do what there is to do, in so many passes at most. -/
def keep (parts : Daemon.Parts) (pool : String) : Nat → DaemonStage → DaemonStage
  | 0, s => s
  | passes + 1, s =>
    match s.timer.wake? 0 s.stage.tracker.signal false with
    | none | some .stop => s
    | some .due => keep parts pool passes (s.pass parts pool)
    | some .news =>
      let s := { s with stage := { s.stage with tracker := s.stage.tracker.takeSignal.2 } }
      keep parts pool passes (s.pass parts pool)

/-- How many passes the keeper may make while an answer is on its way. -/
def passLimit : Nat := 100

/-- Send a request of the listener, and let the keeper work. -/
def send (parts : Daemon.Parts) (pool : String) (s : DaemonStage) (request : Web.Request) :
    Option Web.Outcome × DaemonStage :=
  let (turn, network) := s.network.send request
  let s := { s with network := network, stopped := s.stopped || turn == some Turn.interrupt }
  ((turn.map Turn.outcome?).getD (some (.broken false)), s.keep parts pool passLimit)

/-- What the client of a listener gets that waits for as long as it takes. -/
def steadyClient (parts : Daemon.Parts) (pool : String) :
    Surroundings ClientNeed.interface DaemonStage := fun s need =>
  match need with
  | .clock => (s.network.today, s)
  | .send request =>
    let (outcome, s) := s.send parts pool request
    (outcome.getD (.broken true), s)
  | .shelf => (s.network.shelf, s)
  | .keep issue => ((), { s with network := { s.network with shelf := s.network.shelf.keep issue } })

/-- What the client of a listener gets that waits until it is told to stop. -/
def racedClient (parts : Daemon.Parts) (pool : String) :
    Surroundings ClientNeed.interface.withSignal DaemonStage := fun s need =>
  match need with
  | .steady need => steadyClient parts pool s need
  | .raced (.send request) =>
    let (outcome, s) := s.send parts pool request
    (if s.stopped then none else outcome, s)
  | .raced .clock => (some s.network.today, s)
  | .raced .shelf => (some s.network.shelf, s)
  | .raced (.keep issue) =>
    let ((), s) := steadyClient parts pool s (.keep issue)
    (some (), s)
  | .signalled => (s.stopped, s)

/-- What a listener gets that waits for as long as it takes. -/
def steady (parts : Daemon.Parts) (pool : String) :
    Surroundings SessionNeed.interface DaemonStage := fun s need =>
  match need with
  | .source call => (parts.client.session call).eval (steadyClient parts pool) s
  | .wait _ => ((), s)
  | .clock => (s.network.today, s)
  | .tell event =>
    ((), { s with stage := { s.stage with tracker := s.stage.tracker.apply event } })

/-- What a listener gets that waits until it is told to stop. -/
def raced (parts : Daemon.Parts) (pool : String) (s : DaemonStage) :
    (need : SessionNeed) → Option need.Answer × DaemonStage
  | .source call => (parts.client.session call).raced.eval (racedClient parts pool) s
  | .wait span =>
    let ((), s) := steady parts pool s (.wait span)
    (some (), s)
  | .clock => (some s.network.today, s)
  | .tell event =>
    let ((), s) := steady parts pool s (.tell event)
    (some (), s)

/-- The surroundings of a daemon's listener. -/
def surroundings (parts : Daemon.Parts) (pool : String) :
    Surroundings SessionNeed.interface.withSignal DaemonStage := fun s need =>
  match need with
  | .steady need => steady parts pool s need
  | .raced need => raced parts pool s need
  | .signalled => (s.stopped, s)

end DaemonStage

/-- How often a listener polls at most. -/
def turnLimit : Nat := 1000000

/-- Run a daemon: register its pool, set up its parts, and let its listener and
its keeper work until the listener ends. -/
def runDaemon (s : Settings) (files : Settings.Files) (machine : String) (draws : List String)
    (store : Store) (network : Network) : Except Daemon.Fault Unit × Store × Network :=
  match Daemon.register s network.today store with
  | .error fault => (.error (.state fault), store, network)
  | .ok store =>
    match Daemon.parts s files machine with
    | .error fault => (.error fault, store, network)
    | .ok parts =>
      let pool := s.pool.name
      let stage : DaemonStage :=
        ⟨network, ⟨store, .new parts.reservationTtl, draws⟩, .start 0, false⟩
      let (result, stage) := (Listener.run parts.session turnLimit).eval
        (DaemonStage.surroundings parts pool) (stage.keep parts pool DaemonStage.passLimit)
      let result : Except Daemon.Fault Unit := match result with
        | .ok _ => .ok ()
        | .error fault => .error (.setup fault)
      (result, stage.stage.store, stage.network)

/-- Run a daemon on scripted files, whose store begins as `seed`; the store it
leaves, if there is one. -/
def runOnFiles (files : Files) (s : Settings) (machine : String) (draws : List String)
    (seed : Store) (network : Network) : Except Daemon.Fault Unit × Option Store × Network :=
  let place := s.state.dataDir
  match files.makeAll place with
  | .error _ => (.error (.directory place), none, network)
  | .ok files =>
    if !files.canOpenStore (Files.join place Daemon.storeFile) then
      (.error (.state .unopened), none, network)
    else
      let (result, store, network) := runDaemon s files.text? machine draws seed network
      (result, some store, network)

end PoolScaler.Simulation

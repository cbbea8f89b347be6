import PoolScaler.CommandLine.Respond
import PoolScaler.Simulation.Daemon
import PoolScaler.Simulation.Draws
import PoolScaler.Store.Basic
set_option autoImplicit false

/-!
# The program

The outermost layer: it reads the environment and files, has the call responded
to, and writes what came of it.  It has no connection to a network, so a daemon
finds every request broken off and ends with that.
-/

namespace PoolScaler.Main

/-- The text of a file, if it can be read. -/
def readText (path : String) : IO (Option String) := do
  try
    return some (← IO.FS.readFile path)
  catch _ => return none

/-- The files that a call may need: the settings, and the key of the app they
name. -/
def neededFiles (config : String) : IO Settings.Files := do
  let text ← readText config
  let key ← match (text.bind Settings.parse?).bind (·.source.app) with
    | some app => do pure [(app.privateKeyPath, ← readText app.privateKeyPath)]
    | none => pure []
  return fun path => (((config, text) :: key).lookup path).join

/-- Seconds of Unix time, by the last change of a file. -/
def changedAt (path : String) : IO Instant := do
  let place := (← IO.currentDir) / path
  return UInt64.ofNat (← place.metadata).modified.sec.toNat

/-- Have a daemon work on the store in its directory. -/
def serve (s : Settings) (files : Settings.Files) (host : Option String) :
    IO (Except Daemon.Fault Unit) := do
  try
    IO.FS.createDirAll s.state.dataDir
  catch _ => return .error (.directory s.state.dataDir)
  let place := Simulation.Files.join s.state.dataDir Daemon.storeFile
  let text := (← readText place).getD ""
  match Store.ofText text with
  | .error fault => return .error (.state fault)
  | .ok store =>
    IO.FS.writeFile place text
    let network := Simulation.Network.start (← changedAt place) []
    let (result, store, _) := Simulation.runDaemon s files (Daemon.machineName host)
      (Simulation.draws Simulation.drawCount) store network
    IO.FS.writeFile place store.toText
    return result

/-- The settings file that arguments name. -/
def configOf (args : List String) : String :=
  match CommandLine.Request.ofArguments args none with
  | .perform _ (.run config _) => config
  | .perform _ (.check config) => config
  | _ => "fleet.toml"

/-- Tell why a call failed. -/
def fail (message : String) : IO UInt32 := do
  IO.eprintln (CommandLine.failureLine message)
  return 1

/-- Respond to a call, and end with its code. -/
def run (args : List String) : IO UInt32 := do
  let host ← IO.getEnv "HOSTNAME"
  let env : CommandLine.Environment :=
    ⟨← IO.getEnv "RUST_LOG", ← IO.getEnv "GITHUB_TOKEN", host⟩
  let files ← neededFiles (configOf args)
  match CommandLine.respond env files args with
  | .displayed lines => do
    lines.forM fun line => IO.println line
    return 0
  | .refused => do
    IO.eprintln "error: invalid arguments, see --help"
    return 2
  | .valid format notice => do
    match notice with
    | some n => IO.println (match format with
        | .text => n.line
        | .json => n.toJson.render)
    | none => pure ()
    return 0
  | .failed message => fail message
  | .crashed => do
    IO.eprintln "error: the filter for notices is cut inside a character"
    return 101
  | .serve s => do
    match ← serve s files host with
    | .ok () => return 0
    | .error fault => fail fault.message

end PoolScaler.Main

/-- The program. -/
def main (args : List String) : IO UInt32 := PoolScaler.Main.run args

import PoolScaler.CommandLine.Arguments
import PoolScaler.CommandLine.Filter
import PoolScaler.Daemon
set_option autoImplicit false

/-!
# Responding to a call

What the program does when it is called: it shows a text, refuses its
arguments, checks a settings file, or has a daemon work.
-/

namespace PoolScaler.CommandLine

/-- What the program reads from its environment. -/
structure Environment where
  /-- The filter for notices. -/
  filter : Option String
  /-- A token to show who asks. -/
  token : Option String
  /-- The name of the machine. -/
  host : Option String
  deriving DecidableEq, Repr, Inhabited

/-- How a call ends, or what is still to be done. -/
inductive Response where
  /-- Lines are written, and all is well. -/
  | displayed (lines : List String)
  /-- The arguments are not allowed. -/
  | refused
  /-- Settings are in order, which a notice tells if it is written. -/
  | valid (format : LogFormat) (notice : Option Notice)
  /-- The call failed. -/
  | failed (message : String)
  /-- The call broke off before anything was done. -/
  | crashed
  /-- A daemon is to work with settings that are in order. -/
  | serve (settings : Settings)
  deriving Inhabited

/-- The code a call ends with, if it ends. -/
def Response.code? : Response → Option Nat
  | displayed _ => some 0
  | refused => some 2
  | valid _ _ => some 0
  | failed _ => some 1
  | crashed => some 101
  | serve _ => none

/-- The line that tells why a call failed. -/
def failureLine (message : String) : String := "Error: " ++ message

/-- Settings in which a token that is given, and not empty, goes first. -/
def withToken (s : Settings) (token : Option String) : Settings :=
  match token.filter fun t => !t.isEmpty with
  | some t => { s with source := { s.source with token := some t } }
  | none => s

/-- The settings of a file, once they are in order. -/
def validSettings (files : Settings.Files) (path : String) (token : Option String) :
    Except Settings.Fault Settings := do
  let s ← Settings.load files path
  let s := withToken s token
  s.validate
  return s

/-- Do what was asked for, with the notices that a filter lets pass. -/
def perform (filter : Filter) (files : Settings.Files) (format : LogFormat) :
    Command → Response
  | .run path token =>
    match validSettings files path token with
    | .ok s => .serve s
    | .error fault => .failed fault.message
  | .check path =>
    match validSettings files path none with
    | .ok s =>
      let notice := validNotice path s.pool.name
      .valid format (if filter.passes notice then some notice else none)
    | .error fault => .failed fault.message

/-- Respond to a call. -/
def respond (env : Environment) (files : Settings.Files) (args : List String) : Response :=
  match Request.ofArguments args env.token with
  | .perform format command =>
    match Filter.ofEnvironment? env.filter with
    | some filter => perform filter files format command
    | none => .crashed
  | .display lines => .displayed lines
  | .refused => .refused

end PoolScaler.CommandLine

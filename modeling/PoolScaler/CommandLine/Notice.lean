import PoolScaler.Json.Writer
set_option autoImplicit false

/-!
# Notices

What the program says while it works: a level, where it comes from, a message
and fields.
-/

namespace PoolScaler.CommandLine

/-- How much a notice matters; the order is from what matters most. -/
inductive Level where
  /-- Something failed. -/
  | error
  /-- Something is odd. -/
  | warn
  /-- Something happened. -/
  | info
  /-- Something of interest to those who look for faults. -/
  | debug
  /-- Everything else. -/
  | trace
  deriving DecidableEq, Repr, Inhabited

/-- The place of a level, from 1 for what matters most. -/
def Level.rank : Level → Nat
  | error => 1
  | warn => 2
  | info => 3
  | debug => 4
  | trace => 5

/-- The word of a level. -/
def Level.word : Level → String
  | error => "ERROR"
  | warn => "WARN"
  | info => "INFO"
  | debug => "DEBUG"
  | trace => "TRACE"

/-- A notice. -/
structure Notice where
  level : Level
  target : String
  message : String
  fields : List (String × String)
  deriving DecidableEq, Repr, Inhabited

namespace Notice

/-- A notice as a line for people. -/
def line (n : Notice) : String :=
  n.level.word ++ " " ++ n.target ++ ": " ++ n.message
    ++ String.join (n.fields.map fun f => " " ++ f.1 ++ "=" ++ f.2)

/-- A notice as JSON. -/
def toJson (n : Notice) : Json :=
  .object [
    ("level", .str n.level.word),
    ("fields", .object (("message", .str n.message) :: n.fields.map fun f => (f.1, .str f.2))),
    ("target", .str n.target)]

end Notice

/-- The notice that a settings file is in order. -/
def validNotice (path pool : String) : Notice :=
  ⟨.info, "fleetd", "configuration is valid", [("path", path), ("pool", pool)]⟩

end PoolScaler.CommandLine

import PoolScaler.Text.Utf8
set_option autoImplicit false

/-!
# Scripted files

A directory with the files in and below it.  Paths lead from the directory
itself, or from a mark that stands for it; whatever lies outside is not there.
-/

namespace PoolScaler.Simulation

/-- Files with their paths from the directory. -/
structure Files where
  /-- How a path begins that does not lead from where the program is. -/
  mark : String
  entries : List (List String × List UInt8)
  /-- Directories with nothing in them. -/
  directories : List (List String)
  deriving Inhabited

namespace Files

/-- The parts of a path. -/
def split (path : String) : List String := path.splitOn "/"

/-- A file in a directory. -/
def join (directory file : String) : String :=
  if directory.isEmpty then file else directory ++ "/" ++ file

/-- Something is a directory: the one itself, or one on the way to another or
to a file. -/
def isDirectory (f : Files) (place : List String) : Bool :=
  place.isEmpty || f.directories.any (fun d => place.isPrefixOf d)
    || f.entries.any fun e => place.isPrefixOf e.1 && place.length < e.1.length

/-- Why a path leads nowhere. -/
inductive Obstacle where
  /-- Something on the way is not there. -/
  | absent
  /-- Something else is there already. -/
  | inTheWay
  deriving DecidableEq, Repr, Inhabited

/-- Follow the parts of a path from a place. -/
def follow (f : Files) (place : List String) : List String → Except Obstacle (List String)
  | [] => .ok place
  | part :: rest =>
    if !f.isDirectory place then
      .error (if (f.entries.lookup place).isSome then .inTheWay else .absent)
    else if part = "" ∨ part = "." then follow f place rest
    else if part = ".." then
      if place.isEmpty then .error .absent else follow f place.dropLast rest
    else if 255 < part.utf8ByteSize ∨ part.contains '\x00' then .error .inTheWay
    else follow f (place ++ [part]) rest

/-- The parts of a path from the directory itself, if it leads from there. -/
def route? (f : Files) (path : String) : Option (List String) :=
  match split path with
  | [""] => none
  | first :: rest =>
    if first = f.mark then some rest
    else if first = "" then none
    else some (first :: rest)
  | [] => none

/-- Where a path leads. -/
def place? (f : Files) (path : String) : Option (List String) :=
  (f.route? path).bind fun parts => (f.follow [] parts).toOption

/-- The bytes of a file. -/
def bytes? (f : Files) (path : String) : Option (List UInt8) :=
  (f.place? path).bind fun place => f.entries.lookup place

/-- The text of a file. -/
def text? (f : Files) (path : String) : Option String := (f.bytes? path).bind Text.Utf8.decode?

/-- A path leads to a directory. -/
def leadsToDirectory (f : Files) (path : String) : Bool :=
  match f.place? path with
  | some place => f.isDirectory place
  | none => false

/-- The files with one directory more; all that is on the way to it must be
there, and its name must be free. -/
def make (f : Files) (path : String) : Except Obstacle Files :=
  match f.route? path with
  | none => .error .absent
  | some parts =>
    let parts := (parts.reverse.dropWhile (· = "")).reverse
    match f.follow [] parts.dropLast, parts.getLast? with
    | .error o, _ => .error o
    | .ok _, none => .error .inTheWay
    | .ok above, some last =>
      match f.follow above [last] with
      | .error o => .error o
      | .ok place =>
        if f.isDirectory place ∨ (f.entries.lookup place).isSome then .error .inTheWay
        else .ok { f with directories := place :: f.directories }

/-- The paths of a directory and of those that it is in, as far as their names
tell, innermost first. -/
def ancestors (path : String) : List String :=
  let names := (split path).filter fun part => part ≠ "" ∧ part ≠ "."
  let start := if path.startsWith "/" then "/" else ""
  let above := (List.range names.length).drop 1 |>.map fun n =>
    start ++ "/".intercalate (names.take n)
  if names.isEmpty then [] else path :: above.reverse

/-- The files with a directory and, where it is missing, the one above it.  A
directory that is there already is as good as one made. -/
def makeWithin (f : Files) : List String → Except Obstacle Files
  | [] => .ok f
  | path :: above =>
    match f.make path with
    | .ok f => .ok f
    | .error .inTheWay => if f.leadsToDirectory path then .ok f else .error .inTheWay
    | .error .absent =>
      match makeWithin f above with
      | .error o => .error o
      | .ok f =>
        match f.make path with
        | .ok f => .ok f
        | .error o => if f.leadsToDirectory path then .ok f else .error o

/-- The files with a directory made at a path, and those on the way to it. -/
def makeAll (f : Files) (path : String) : Except Obstacle Files := f.makeWithin (ancestors path)

/-- A store can be opened at a path: the file is empty, or there is none and it
can be made. -/
def canOpenStore (f : Files) (path : String) : Bool :=
  match f.place? path with
  | none => false
  | some place =>
    !f.isDirectory place && f.isDirectory place.dropLast
      && ((f.entries.lookup place).getD []).isEmpty

end Files

end PoolScaler.Simulation
